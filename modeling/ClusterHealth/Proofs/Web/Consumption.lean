import ClusterHealth.Proofs.Stream.Calls
import ClusterHealth.Proofs.Web.BodyLaws

namespace ClusterHealth.Web.Body

open ClusterHealth.Stream ClusterHealth.Stream.Framing ClusterHealth.Text

variable {b b' : Body} {chunks : List BodyChunk}

/-- All that was asked for has come as octets. -/
structure Intact (chunks : List BodyChunk) (b : Body) : Prop where
  pulled : b.ending = none →
    ∃ seen, chunks = List.map .octets seen ++ b.left ∧ b.pulled = seen.length
  finished : b.finished = true → b.left = [] ∧ b.ending = none

namespace Intact

theorem ofChunks (wire : Wire) (headers : Headers) (chunks : List BodyChunk) :
    Intact chunks (.ofChunks wire headers chunks) :=
  ⟨fun _ => ⟨[], rfl, rfl⟩, by simp [Body.ofChunks]⟩

theorem decoder (h : Intact chunks b) (decoder : TextDecoder) :
    Intact chunks { b with decoder := decoder } :=
  ⟨h.pulled, h.finished⟩

theorem close (h : Intact chunks b) : Intact chunks b.close := by
  unfold Body.close
  split
  · exact h
  · obtain hcut | ⟨n, f, hlt, hcut⟩ := b.cut_cases <;> rw [hcut]
    · exact ⟨h.pulled, h.finished⟩
    · refine ⟨nofun, fun hf => ?_⟩
      simp [(h.finished hf).1] at hlt

theorem pulled_octets {unpackers : List Unpacker} {bs : List UInt8} {rest : List BodyChunk}
    (h : Intact chunks b) (hl : b.left = .octets bs :: rest) (hf : b.finished = false) :
    Intact chunks { b with left := rest, pulled := b.pulled + 1, unpackers := unpackers } := by
  refine ⟨fun hend => ?_, by simp [hf]⟩
  obtain ⟨seen, hseen, hpulled⟩ := h.pulled hend
  exact ⟨seen ++ [bs], by simp [hseen, hl], by simp [hpulled]⟩

theorem pullOctets {out : Option (List UInt8)} (h : Intact chunks b)
    (hp : b.pullOctets = (.ok out, b')) : Intact chunks b' := by
  revert hp
  fun_cases Body.pullOctets b with
  | case1 =>
    rintro ⟨⟩
    exact h
  | case2 _ hl hend =>
    rintro ⟨⟩
    have hclose : b.close = { b with closes := b.close.closes } := by
      unfold Body.close
      split <;> simp [cut_of_left_eq_nil hl]
    rw [hclose]
    exact ⟨h.pulled, fun _ => ⟨hl, hend⟩⟩
  | case5 hf rest _ bs _ _ _ hl =>
    intro hp
    obtain rfl := (Prod.mk.inj hp).2
    exact h.pulled_octets hl (by simpa using hf)
  | _ => intro hp; cases hp

theorem pull_text {cs : List Char} (h : Intact chunks b) (hp : b.pull = (.text cs, b')) :
    Intact chunks b' := by
  revert hp
  fun_cases Body.pull b with
  | case3 _ _ _ ho =>
    rintro ⟨⟩
    exact (h.pullOctets ho).decoder _
  | case6 _ _ ho =>
    rintro ⟨⟩
    exact (h.pullOctets ho).decoder _
  | _ => intro hp; cases hp

theorem pull_ended (h : Intact chunks b) (hp : b.pull = (.ended, b')) : Intact chunks b' := by
  revert hp
  fun_cases Body.pull b with
  | case5 _ _ ho =>
    rintro ⟨⟩
    exact h.pullOctets ho
  | _ => intro hp; cases hp

end Intact

structure InStep (chunks : List BodyChunk) (r : Reader) (b : Body) : Prop where
  intact : Intact chunks b
  finished : r.exhausted = true → b.finished = true

theorem InStep.close {r : Reader} (h : InStep chunks r b) : InStep chunks r b.close := by
  refine ⟨h.intact.close, fun hx => ?_⟩
  rw [finished_close]
  exact h.finished hx

theorem InStep.call {r : Reader} {out : Reading × Reader × Body} (h : InStep chunks r b)
    (hr : r.Wf) (hcall : r.Call b out) :
    InStep chunks out.2.1 out.2.2 ∨
      (∃ e, out.1 = .failed e) ∧ ∀ p rest, front (out.2.1.ahead out.2.2).text ≠ .piece p rest := by
  induction hcall with
  | known ha =>
    have hx := Reader.exhausted_of_advance ha
    exact .inl ⟨h.intact, fun hr' => h.finished (hx ▸ hr')⟩
  | exhausted ha =>
    have hx := Reader.exhausted_of_advance ha
    exact .inl ⟨h.intact, fun hr' => h.finished (hx ▸ hr')⟩
  | text ha hx hpull _ ih =>
    obtain ⟨t, hf, rfl⟩ := Reader.advance_eq_none hr ha
    exact ih ⟨h.intact.pull_text hpull, fun hr' => absurd (hx.symm.trans hr') Bool.false_ne_true⟩
      (Reader.wf_within hf ..)
  | ended ha hx hpull _ ih =>
    obtain ⟨t, hf, rfl⟩ := Reader.advance_eq_none hr ha
    exact ih ⟨h.intact.pull_ended hpull, fun _ => finished_of_ended hpull⟩ (Reader.wf_within hf [] true)
  | fault ha _ hpull =>
    obtain ⟨t, hf, rfl⟩ := Reader.advance_eq_none hr ha
    obtain ⟨-, hs⟩ := Scripted.script_of_pull hpull
    refine .inr ⟨⟨_, rfl⟩, ?_⟩
    simp [Reader.ahead, hs, Ahead.ofChunks, front_of_short hf]

section Faults

def failure? : TextDecoder → List BodyChunk → Option Fault
  | decoder, [] =>
    match decoder.finish with
    | .error f => some f
    | .ok _ => none
  | _, .fault f :: _ => some f
  | decoder, .octets bs :: rest =>
    match decoder.decode bs with
    | .error f => some f
    | .ok (_, decoder) => failure? decoder rest

/-- The fault that a body as a whole ends with. A charset that is not for text shows at once. -/
def fault? (wire : Wire) (hs : Headers) (chunks : List BodyChunk) : Option Fault :=
  (wire.decoder hs).fault?.or (failure? (wire.decoder hs) (unpacked hs.unpackers chunks))

theorem fault_flushed (decoder : TextDecoder) :
    (Ahead.ofChunks (flushed decoder)).fault = failure? decoder [] := by
  rw [flushed, failure?]
  split <;> simp [*, Ahead.ofChunks]

theorem fault_scriptOf (unpackers : List Unpacker) (decoder : TextDecoder) (chunks : List BodyChunk) :
    (Ahead.ofChunks (scriptOf none unpackers decoder chunks)).fault =
      failure? decoder (unpacked unpackers chunks) := by
  induction chunks generalizing unpackers decoder with
  | nil => exact fault_flushed decoder
  | cons c chunks ih =>
    cases c with
    | fault f => rfl
    | octets bs =>
      simp only [scriptOf, unpacked]
      cases Unpacker.unpackChunk unpackers bs with
      | error f => rfl
      | ok out =>
        simp only [failure?]
        cases decoder.decode out.1 with
        | error f => rfl
        | ok cs => simp [Ahead.ofChunks, ih]

theorem fault_script_ofChunks (wire : Wire) (hs : Headers) (chunks : List BodyChunk) :
    (Ahead.ofChunks (script (ofChunks wire hs chunks))).fault = fault? wire hs chunks := by
  rw [fault?]
  cases hd : (wire.decoder hs).fault? with
  | some f => simp [script, ofChunks, hd, Ahead.ofChunks]
  | none => simp [script, ofChunks, hd, fault_scriptOf]

theorem mem_of_failure? {decoder : TextDecoder} {f : Fault} (hd : decoder.isBuiltIn = true)
    (h : failure? decoder chunks = some f) : .fault f ∈ chunks := by
  induction chunks generalizing decoder with
  | nil =>
    cases decoder with
    | builtIn => simp [failure?, TextDecoder.finish] at h
    | _ => cases hd
  | cons c chunks ih =>
    cases c with
    | fault g => simp_all [failure?]
    | octets bs =>
      cases decoder with
      | builtIn charset s => exact List.mem_cons_of_mem _ (ih rfl h)
      | _ => cases hd

end Faults

end ClusterHealth.Web.Body

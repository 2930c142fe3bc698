import ClusterHealth.Proofs.Admin.Completeness
import ClusterHealth.Proofs.Stream.Laziness

namespace ClusterHealth

open ClusterHealth.Stream ClusterHealth.Web

namespace Web.Body

open ClusterHealth.Text

/-- The text of chunks, without what is kept back at their end. -/
def delivered : TextDecoder → List BodyChunk → List Char
  | decoder, .octets bs :: rest =>
    match decoder.decode bs with
    | .error _ => []
    | .ok (cs, decoder) => cs ++ delivered decoder rest
  | _, _ => []

def received (wire : Wire) (headers : Headers) (chunks : List BodyChunk) (n : Nat) : List Char :=
  delivered (wire.decoder headers) (unpacked headers.unpackers (chunks.take n))

theorem received_scriptOf (unpackers : List Unpacker) (decoder : TextDecoder) (chunks : List BodyChunk)
    {n : Nat} (h : n ≤ chunks.length) :
    Chunks.received (scriptOf none unpackers decoder chunks) n =
      delivered decoder (unpacked unpackers (chunks.take n)) := by
  induction n generalizing chunks unpackers decoder with
  | zero => simp [delivered, unpacked]
  | succ n ih =>
    cases chunks with
    | nil => simp at h
    | cons c chunks =>
      cases c with
      | fault f => simp [scriptOf, unpacked, delivered]
      | octets bs =>
        simp only [scriptOf, List.take_succ_cons, unpacked]
        cases Unpacker.unpackChunk unpackers bs with
        | error f => simp [delivered]
        | ok out =>
          simp only [delivered]
          cases decoder.decode out.1 with
          | error f => simp
          | ok cs => simp [ih _ _ _ (Nat.le_of_succ_le_succ h)]

structure Flowing (b : Body) : Prop where
  finished : b.finished = false
  ending : b.ending = none
  decoder : b.decoder.isBuiltIn = true

variable {b b' : Body}

theorem pullOctets_of_flowing {x : Except Fault (Option (List UInt8))} (hf : b.Flowing)
    (h : b.pullOctets = (x, b')) (hb : b'.closes = 0) :
    x ≠ .ok none ∧ b'.pulled = b.pulled + 1 ∧ (∀ bs, x = .ok (some bs) → b'.Flowing) := by
  obtain ⟨hfin, hend, hd⟩ := hf
  revert h
  fun_cases pullOctets b with
  | case1 h => simp [hfin] at h
  | case2 =>
    rintro ⟨⟩
    have hclosed := isClosed_close b
    have hnone : b.close.closes = 0 := hb
    simp [isClosed, hnone] at hclosed
  | case3 _ _ _ hsome => simp [hend] at hsome
  | case4 | case6 =>
    rintro ⟨⟩
    exact ⟨by simp, rfl, by simp⟩
  | case5 =>
    intro h
    obtain ⟨rfl, rfl⟩ := Prod.mk.inj h
    exact ⟨by simp, rfl, fun _ _ => ⟨hfin, hend, hd⟩⟩

theorem pull_of_flowing {p : Pull} (hf : b.Flowing) (h : b.pull = (p, b')) (hb : b'.closes = 0) :
    p ≠ .ended ∧ b'.pulled = b.pulled + 1 ∧ (∀ cs, p = .text cs → b'.Flowing) := by
  have hnext := isBuiltIn_pull hf.decoder
  revert h
  fun_cases pull b with
  | case1 _ hfault => simp [TextDecoder.fault?_of_isBuiltIn hf.decoder] at hfault
  | case2 _ _ _ ho =>
    intro h
    obtain ⟨rfl, rfl⟩ := Prod.mk.inj h
    exact ⟨by simp, (pullOctets_of_flowing hf ho hb).2.1, by simp⟩
  | case3 _ _ _ ho _ _ hd =>
    intro h
    obtain ⟨rfl, rfl⟩ := Prod.mk.inj h
    obtain ⟨-, hpulled, hflowing⟩ := pullOctets_of_flowing hf ho hb
    have hlater := hflowing _ rfl
    exact ⟨by simp, hpulled, fun _ _ => ⟨hlater.finished, hlater.ending,
      TextDecoder.isBuiltIn_decode hlater.decoder hd⟩⟩
  | case4 _ _ _ ho =>
    intro h
    obtain ⟨rfl, rfl⟩ := Prod.mk.inj h
    exact ⟨by simp, (pullOctets_of_flowing hf ho hb).2.1, by simp⟩
  | case5 _ _ ho | case6 _ _ ho | case7 _ _ ho =>
    intro h
    obtain rfl := (Prod.mk.inj h).2
    exact absurd rfl (pullOctets_of_flowing hf ho hb).1

end Web.Body

namespace Stream.Reader

theorem Call.of_body {r : Reader} {b : Body} {out : Reading × Reader × Body} (h : r.Call b out)
    (hf : b.Flowing) (hopen : out.2.2.closes = 0) :
    r.Call (σ := Chunks) ⟨b.script, b.pulled⟩
      (out.1, out.2.1, ⟨out.2.2.script, out.2.2.pulled⟩) := by
  induction h with
  | known ha => exact .known ha
  | exhausted ha hx => exact .exhausted ha hx
  | text ha hx hpull hcall ih =>
    have hb : _ = 0 := Nat.le_zero.1 (hopen ▸ hcall.le_closes)
    obtain ⟨-, hpulled, hflowing⟩ := Body.pull_of_flowing hf hpull hb
    have hs : Body.script _ = .text _ :: Body.script _ := Scripted.script_of_pull hpull
    refine .text ha hx ?_ (ih (hflowing _ rfl) hopen)
    rw [hs, hpulled]
    rfl
  | ended _ _ hpull hcall =>
    have hb := Nat.le_zero.1 (hopen ▸ hcall.le_closes)
    exact absurd rfl (Body.pull_of_flowing hf hpull hb).1
  | fault ha hx hpull =>
    obtain ⟨-, hpulled, -⟩ := Body.pull_of_flowing hf hpull hopen
    obtain ⟨⟨rest, hs : Body.script _ = _⟩, hnil : Body.script _ = []⟩ :=
      Scripted.script_of_pull hpull
    refine .fault ha hx ?_
    dsimp only
    rw [hs, hnil, hpulled]
    rfl

theorem Call.flowing_of_document {r : Reader} {b : Body} {out : Reading × Reader × Body} {d : Members}
    (h : r.Call b out) (hf : b.Flowing) (hopen : out.2.2.closes = 0) (hout : out.1 = .document d) :
    out.2.2.Flowing := by
  induction h with
  | known => exact hf
  | exhausted => split at hout <;> cases hout
  | text _ _ hpull hcall ih =>
    have hb := Nat.le_zero.1 (hopen ▸ hcall.le_closes)
    exact ih ((Body.pull_of_flowing hf hpull hb).2.2 _ rfl) hopen hout
  | ended _ _ hpull hcall =>
    have hb := Nat.le_zero.1 (hopen ▸ hcall.le_closes)
    exact absurd rfl (Body.pull_of_flowing hf hpull hb).1
  | fault => cases hout

end Stream.Reader

namespace Admin

open Framing

def PulledForFirst (wire : Wire) (headers : Headers) (chunks : List BodyChunk) (b : Body) : Prop :=
  ∃ p rest lead c, front (Body.text wire headers chunks) = .piece p rest ∧
    Body.text wire headers chunks = lead ++ c :: rest ∧ Scan.isClosing c ∧
    IsLeast {n | lead.length < (Body.received wire headers chunks n).length} b.pulled

theorem pulledForFirst_of_negotiate {wire : Wire} {headers : Headers} {chunks : List BodyChunk}
    {s : HealthStream} (hd : (wire.decoder headers).isBuiltIn = true)
    (h : negotiate (.ofChunks wire headers chunks) = .ok s) :
    PulledForFirst wire headers chunks s.body := by
  obtain ⟨_, p, rest, -, -, hf, -⟩ := front_of_negotiate h
  obtain ⟨_, hcall⟩ := call_of_negotiate h
  have hclosed := closes_negotiate (.ofChunks wire headers chunks) rfl
  rw [h] at hclosed
  have hopen : s.body.closes = 0 := hclosed.2 hd
  have htext := Body.text_script_ofChunks wire headers chunks
  have hflowing : (Body.ofChunks wire headers chunks).Flowing := ⟨rfl, rfl, hd⟩
  have hlist : Reader.initial.Call (Chunks.ofList (Body.script (.ofChunks wire headers chunks))) _ :=
    hcall.of_body hflowing hopen
  have hleast := hlist.isLeast (Reader.paced_initial _) (by simp [restAfter, htext, hf])
  obtain ⟨lead, c, hlead, hc, hplace⟩ := exists_bracket List.suffix_rfl hf
  simp only [restAfter, htext, hplace] at hleast
  have hscript : Body.script (.ofChunks wire headers chunks) =
      Body.scriptOf none headers.unpackers (wire.decoder headers) chunks := by
    simp [Body.script, Body.ofChunks, TextDecoder.fault?_of_isBuiltIn hd]
  rw [hscript] at hleast
  have hle : s.body.pulled ≤ chunks.length := by
    have hending := (hcall.flowing_of_document hflowing hopen rfl).ending
    obtain ⟨seen, hseen, hpulled⟩ := (inStep_of_negotiate h).intact.pulled hending
    have hlength := congrArg List.length hseen
    rw [List.length_append, List.length_map] at hlength
    omega
  -- what the end of the body adds to its text is left out of what was received
  have hreceived {n : Nat} (hn : n ≤ chunks.length) :
      Chunks.received (Body.scriptOf none headers.unpackers (wire.decoder headers) chunks) n =
        Body.received wire headers chunks n :=
    Body.received_scriptOf _ _ _ hn
  refine ⟨p, rest, lead, c, hf, hlead, hc, ?_, fun n hn => ?_⟩
  · rw [Set.mem_ofPred_eq, ← hreceived hle]
    exact hleast.1
  · by_cases hlt : n ≤ chunks.length
    · rw [Set.mem_ofPred_eq, ← hreceived hlt] at hn
      exact hleast.2 hn
    · omega

theorem reads_lazily (chunks : List Chunk) (n : Nat) :
    Lazy chunks n (after chunks n).1 (after chunks n).2
        ((after chunks n).1.next (after chunks n).2) ∧
      ∀ (s s' : Session) (types : List String) (deadline : Duration) (timeout : Option Quantity)
        (status : Nat) (wire : Wire) (headers : Headers) (reason : Option String) (body : List BodyChunk)
        (version : AnyText) (sent : List SentRequest),
        s.request types deadline timeout
          (.response ⟨status, headers, reason, .ofChunks wire headers body⟩) = (.ok version, sent, s') →
        (wire.decoder headers).isBuiltIn = true →
        ∃ stream, s'.stream = some stream ∧ PulledForFirst wire headers body stream.body := by
  refine ⟨lazy_next chunks n, ?_⟩
  intro s s' types deadline timeout status wire headers reason body version sent h hd
  obtain ⟨stream, -, hn, -, rfl⟩ := negotiate_of_request h
  exact ⟨stream, rfl, pulledForFirst_of_negotiate hd hn⟩

def straySource : List Chunk :=
  [.text " \n".toList, .text "\x7b\"a\"".toList, .text ":1\x7d[".toList, .text "]".toList, .text "x".toList]

theorem reads_lazily_straySource :
    Lazy straySource 1 (after straySource 1).1 (after straySource 1).2
        ((after straySource 1).1.next (after straySource 1).2) ∧
      (after straySource 1).2.pulled = 3 ∧ (after straySource 2).2.pulled = 4 ∧
      (answer twoDocuments).1 = .ok "1" ∧
      ∃ stream, (answer twoDocuments).2.2.stream = some stream ∧
        PulledForFirst .plain [] twoDocuments stream.body ∧ stream.body.pulled = 1 := by
  have h : (answer twoDocuments).1 = .ok "1" := by decide +kernel
  have hpulled : (answer twoDocuments).2.2.stream.map (·.body.pulled) = some 1 := by decide +kernel
  obtain ⟨hlazy, hrequest⟩ := reads_lazily straySource 1
  rcases hr : answer twoDocuments with ⟨result, sent, s'⟩
  rw [hr] at h hpulled
  obtain rfl : result = .ok "1" := h
  obtain ⟨stream, hstream, hfirst⟩ := hrequest _ _ _ _ _ _ _ _ _ _ _ _ hr rfl
  refine ⟨hlazy, by decide +kernel, by decide +kernel, rfl, stream, hstream, hfirst, ?_⟩
  simpa [hstream] using hpulled

end Admin

end ClusterHealth

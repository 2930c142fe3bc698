import ClusterHealth.Proofs.Admin.Release
import ClusterHealth.Proofs.Web.Consumption

namespace ClusterHealth

open ClusterHealth.Stream ClusterHealth.Stream.Framing ClusterHealth.Text ClusterHealth.Web

namespace Web

structure Wire.IsBare (wire : Wire) (headers : Headers) : Prop where
  codings : headers.codings = []
  decoder : (wire.decoder headers).isBuiltIn = true

theorem Headers.unpackers_eq_nil {headers : Headers} (h : headers.codings = []) :
    headers.unpackers = [] := by
  rw [unpackers, h]
  rfl

theorem TextDecoder.exists_of_isBuiltIn {d : TextDecoder} (h : d.isBuiltIn = true) :
    ∃ charset s, d = .builtIn charset s := by
  cases d with
  | builtIn charset s => exact ⟨charset, s, rfl⟩
  | _ => cases h

namespace Body

variable {wire : Wire} {headers : Headers}

theorem intact_map_octets (cut : List (List UInt8)) :
    intact (cut.map .octets) = (cut.flatten, true) := by
  induction cut with
  | nil => rfl
  | cons bs cut ih => simp [intact, ih]

theorem text_of_isBare (h : wire.IsBare headers) {cut cut' : List (List UInt8)}
    (hcut : cut.flatten = cut'.flatten) :
    text wire headers (cut.map .octets) = text wire headers (cut'.map .octets) := by
  obtain ⟨charset, s, hd⟩ := TextDecoder.exists_of_isBuiltIn h.decoder
  simp only [text, Headers.unpackers_eq_nil h.codings, unpacked_nil, hd, decoded_builtIn,
    intact_map_octets, hcut]

theorem fault?_of_isBare (h : wire.IsBare headers) (cut : List (List UInt8)) :
    fault? wire headers (cut.map .octets) = none := by
  rw [fault?, TextDecoder.fault?_of_isBuiltIn h.decoder, Headers.unpackers_eq_nil h.codings, unpacked_nil]
  by_contra hsome
  obtain ⟨f, hf⟩ := Option.ne_none_iff_exists'.1 hsome
  simpa using mem_of_failure? h.decoder hf

theorem ahead_script_congr (h : wire.IsBare headers) {cut cut' : List (List UInt8)}
    (hcut : cut.flatten = cut'.flatten) :
    Ahead.ofChunks (script (ofChunks wire headers (cut.map .octets))) =
      Ahead.ofChunks (script (ofChunks wire headers (cut'.map .octets))) := by
  rw [Ahead.mk.injEq, text_script_ofChunks, text_script_ofChunks, fault_script_ofChunks,
    fault_script_ofChunks, fault?_of_isBare h, fault?_of_isBare h]
  exact ⟨text_of_isBare h hcut, rfl⟩

/-- The body is open and nothing but octets is left of it, which are this text. What the end may add to
it for an unfinished character is not part of it. -/
structure Flows (b : Body) (t : List Char) : Prop where
  closes : b.closes = 0
  finished : b.finished = false
  ending : b.ending = none
  unpackers : b.unpackers = []
  left : ∃ (charset : Charset) (s : DecoderState) (cut : List (List UInt8)),
    b.decoder = .builtIn charset s ∧ b.left = cut.map .octets ∧ (charset.decode s cut.flatten).1 = t

theorem flows_ofChunks (h : wire.IsBare headers) (cut : List (List UInt8)) :
    ∃ charset s, wire.decoder headers = .builtIn charset s ∧
      (ofChunks wire headers (cut.map .octets)).Flows (charset.decode s cut.flatten).1 := by
  obtain ⟨charset, s, hd⟩ := TextDecoder.exists_of_isBuiltIn h.decoder
  exact ⟨charset, s, hd, rfl, rfl, rfl, Headers.unpackers_eq_nil h.codings, charset, s, cut, hd, rfl, rfl⟩

theorem Flows.pull {b : Body} {t : List Char} (h : b.Flows t) :
    match b.pull with
    | (.text cs, b') => (∃ t', t = cs ++ t' ∧ b'.Flows t') ∨ t = [] ∧ b'.closes = 1
    | (.ended, b') => t = [] ∧ b'.closes = 1
    | (.failed _, _) => False := by
  obtain ⟨left, ending, late, unpackers, decoder, pulled, closes, finished⟩ := b
  obtain ⟨rfl, rfl, rfl, rfl, charset, s, cut, rfl, rfl, rfl⟩ := h
  cases cut with
  | nil =>
    have hcut : Body.cut ⟨[], none, late, [], .builtIn charset s, pulled, 0, false⟩ = _ :=
      cut_of_left_eq_nil rfl
    cases s <;>
      simp [Body.pull, pullOctets, close, isClosed, hcut, decodeEnd, TextDecoder.fault?, TextDecoder.finish]
  | cons bs cut =>
    have hunpack := unpackChunk_nil bs
    simp only [Body.pull, pullOctets, List.map_cons, TextDecoder.fault?, hunpack, TextDecoder.decode,
      Bool.false_eq_true, if_false]
    refine .inl ⟨(charset.decode (charset.decode s bs).2 cut.flatten).1, ?_,
      rfl, rfl, rfl, rfl, charset, _, cut, rfl, rfl, rfl⟩
    rw [List.flatten_cons, Charset.decode_append]

end Body

end Web

namespace Stream.Reader

/-- Where a reader stands with a body of octets: it is closed, or this text is still to be scanned before
the body is asked for its end. -/
inductive Stands (r : Reader) (b : Body) : Option (List Char) → Prop
  | closed : b.closes = 1 → Stands r b none
  | flows : r.Wf → r.exhausted = false → b.Flows t → Stands r b (some (r.held ++ t))

def standing : Option (List Char) → Option (List Char)
  | none => none
  | some t =>
    match front t with
    | .short _ => none
    | x => some x.rest

variable {r : Reader} {b : Body} {out : Reading × Reader × Body}

theorem Stands.isClosed {o : Option (List Char)} (h : r.Stands b o) : b.isClosed = o.isNone := by
  cases h with
  | closed h => simp [Body.isClosed, h]
  | flows _ _ h => simp [Body.isClosed, h.closes]

theorem Call.closes_eq_one (h : r.Call b out) (hb : b.closes = 1) : out.2.2.closes = 1 :=
  Nat.le_antisymm (h.closes_le (Nat.le_of_eq hb)) (hb ▸ h.le_closes)

theorem Call.stands_of_flows {t : List Char} (h : r.Call b out) (hr : r.Wf)
    (hx : r.exhausted = false) (hb : b.Flows t) :
    out.2.1.Stands out.2.2 (standing (some (r.held ++ t))) := by
  induction h generalizing t with
  | @known _ _ r b ha =>
    rw [advance_eq hr] at ha
    have happ := front_append r.held t
    cases hf : front r.held with
    | short u => simp [hf] at ha
    | stray u =>
      obtain ⟨-, rfl⟩ : _ ∧ between u r.exhausted = _ := by simpa [hf] using ha
      rw [hf] at happ
      simpa [standing, happ, Front.rest] using Stands.flows (wf_between u r.exhausted) hx hb
    | piece p u =>
      obtain ⟨-, rfl⟩ : _ ∧ between u r.exhausted = _ := by simpa [hf] using ha
      rw [hf] at happ
      simpa [standing, happ, Front.rest] using Stands.flows (wf_between u r.exhausted) hx hb
  | exhausted ha hx' =>
    rw [exhausted_of_advance ha, hx] at hx'
    cases hx'
  | @text _ b b' cs _ r ha hx' hpull hcall ih =>
    obtain ⟨u, hf, rfl⟩ := advance_eq_none hr ha
    have hflow := hb.pull
    rw [show b.pull = _ from hpull] at hflow
    obtain ⟨t', rfl, hb'⟩ | ⟨rfl, hclosed⟩ := hflow
    · have hscan := ih (wf_within hf cs r.exhausted) hx hb'
      rw [show (within u [] r.exhausted).feed cs = within u cs r.exhausted from rfl, held_within,
        List.append_assoc] at hscan
      have happ : front (r.held ++ (cs ++ t')) = front (u ++ (cs ++ t')) := by
        rw [front_append, hf]
      simpa only [standing, happ] using hscan
    · -- the body had come to its end and was closed there
      simpa [standing, hf] using Stands.closed (hcall.closes_eq_one hclosed)
  | @ended _ b b' _ r ha _ hpull hcall =>
    obtain ⟨u, hf, rfl⟩ := advance_eq_none hr ha
    have hflow := hb.pull
    rw [show b.pull = _ from hpull] at hflow
    obtain ⟨rfl, hclosed⟩ := hflow
    simpa [standing, hf] using Stands.closed (hcall.closes_eq_one hclosed)
  | @fault _ b _ _ _ _ _ hpull =>
    have hflow := hb.pull
    rw [show b.pull = _ from hpull] at hflow
    exact hflow.elim

theorem Call.stands {o : Option (List Char)} (h : r.Call b out) (hb : r.Stands b o) :
    out.2.1.Stands out.2.2 (standing o) := by
  cases hb with
  | closed hclosed => exact .closed (h.closes_eq_one hclosed)
  | flows hr hx hb => exact h.stands_of_flows hr hx hb

end Stream.Reader

end ClusterHealth

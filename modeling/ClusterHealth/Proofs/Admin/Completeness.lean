import ClusterHealth.Proofs.Admin.Delivery
import ClusterHealth.Proofs.Web.Consumption

/-!
A report is made of a whole body only. A stream that has lost something of its body, by a fault or by
being closed, tells so before it tells of the end, or has no document left to make a report of.
-/

namespace ClusterHealth.Admin

open ClusterHealth.Report ClusterHealth.Stream ClusterHealth.Web Framing

namespace HealthStream

def ahead (s : HealthStream) : Ahead := s.reader.ahead s.body

inductive Steps (s : HealthStream) : Reading × HealthStream → Prop
  | first : s.first = some d → Steps s (.document d, ⟨s.version, s.body, s.reader, none⟩)
  | call : s.first = none → s.reader.Call s.body (x, r, b) → r.Fits b → x = s.ahead.next.1 →
      r.ahead b = s.ahead.next.2 → Steps s (x, ⟨s.version, b, r, none⟩)

inductive Drains : HealthStream → List Members → Option ReadError → HealthStream → Prop
  | document : s.next = (.document d, s') → Drains s' ds e last → Drains s (d :: ds) e last
  | ended : s.next = (.ended, last) → Drains s [] none last
  | failed : s.next = (.failed e, last) → Drains s [] (some e) last

def due (s : HealthStream) : List Reading := s.first.toList.map .document ++ verdicts s.ahead.text

variable {s s' last : HealthStream} {ds : List Members} {e : Option ReadError}
  {out : Reading × HealthStream}

theorem steps_next (h : s.reader.Fits s.body) : s.Steps s.next := by
  have hcall := Reader.call_next s.reader s.body
  have hagrees := Reader.next_agrees h
  rw [next]
  cases hfirst : s.first with
  | some d => exact .first hfirst
  | none =>
    rcases hn : s.reader.next s.body with ⟨x, r, b⟩
    rw [hn] at hcall hagrees
    exact .call hfirst hcall hagrees.fits hagrees.reading hagrees.ahead

namespace Steps

theorem fits (h : s.Steps out) (hs : s.reader.Fits s.body) : out.2.reader.Fits out.2.body := by
  cases h with
  | first => exact hs
  | call _ _ hfits => exact hfits

theorem due (h : s.Steps out) :
    out.1 ≠ .ended ∧ s.due = out.1 :: out.2.due ∨
      s.due = [] ∧ out.2.due = [] ∧ ∀ d, out.1 ≠ .document d := by
  cases h with
  | first hfirst => exact .inl ⟨by simp, by simp [HealthStream.due, HealthStream.ahead, hfirst]⟩
  | @call x r b hfirst _ _ hx hahead =>
    have hdue : (HealthStream.mk s.version b r none).due = verdicts s.ahead.next.2.text := by
      rw [← hahead]
      rfl
    rw [hdue, HealthStream.due, hfirst]
    by_cases hf : ∃ p rest, front s.ahead.text = .piece p rest
    · obtain ⟨p, rest, hf⟩ := hf
      rw [Ahead.next_of_piece hf] at hx ⊢
      exact .inl ⟨hx ▸ verdict_ne_ended _, by rw [verdicts_of_piece hf, hx]; rfl⟩
    · have hb : s.ahead.Barren := fun p rest hp => hf ⟨p, rest, hp⟩
      exact .inr ⟨hb.verdicts, hb.next.verdicts, fun d => hx ▸ hb.reading d⟩

theorem ended (h : s.Steps (.ended, last)) : last.reader.exhausted = true ∧ last.ahead.text = [] := by
  cases h with
  | call _ hcall _ hx hahead =>
    refine ⟨hcall.exhausted_of_ended rfl, ?_⟩
    rw [HealthStream.ahead, hahead, Ahead.text_next, Ahead.front_of_ended hx.symm, Front.rest]

end Steps

theorem drains_drain {steps : Nat} (h : s.reader.Fits s.body) (hsteps : s.due.length < steps) :
    Drains s (s.drain steps).1 (s.drain steps).2.1 (s.drain steps).2.2 := by
  induction steps generalizing s with
  | zero => simp at hsteps
  | succ steps ih =>
    have hnext := steps_next h
    rw [drain]
    rcases hn : s.next with ⟨x, s'⟩
    rw [hn] at hnext
    cases x with
    | document d =>
      have hlt : s'.due.length < steps := by
        obtain ⟨-, hdue⟩ | ⟨-, -, hno⟩ := hnext.due
        · rw [hdue, List.length_cons] at hsteps
          exact Nat.lt_of_succ_lt_succ hsteps
        · exact absurd rfl (hno d)
      exact .document hn (ih (hnext.fits h) hlt)
    | ended => exact .ended hn
    | failed e => exact .failed hn

theorem length_due_lt (h : s.reader.Fits s.body) : s.due.length < s.stepsLeft := by
  obtain ⟨t, ht⟩ := Reader.front_taken h.wf
  have hpieces := length_pieces_append_le ht (s.reader.pending ++ (Ahead.ofChunks s.body.script).text)
  have htext := Ahead.length_text_le s.body.script
  have hfirst : s.first.toList.length ≤ 1 := by
    cases s.first <;> simp
  have hverdicts : (verdicts s.ahead.text).length = (pieces (s.reader.taken.reverse ++
      (s.reader.pending ++ (Ahead.ofChunks s.body.script).text))).length := by
    rw [verdicts, List.length_map, ← List.append_assoc]
    rfl
  rw [due, List.length_append, List.length_map, hverdicts, stepsLeft]
  rw [List.length_append] at hpieces
  omega

theorem drains_readAll (h : s.reader.Fits s.body) :
    ∃ last, Drains s s.readAll.1 s.readAll.2.1 last ∧ s.readAll.2.2 = last.close :=
  ⟨_, drains_drain h (length_due_lt h), rfl⟩

/-- All of the body that was asked for has come, and what is due is the rest of it. -/
structure Whole (body : Ahead) (chunks : List BodyChunk) (s : HealthStream) : Prop where
  inStep : Body.InStep chunks s.reader s.body
  due : s.due <:+ verdicts body.text
  remainder : Framing.remainder s.ahead.text = Framing.remainder body.text
  fault : s.ahead.fault = body.fault

/-- Something is lost: a fault will tell of it, or nothing more is to come. -/
def Broken (s : HealthStream) : Prop := s.ahead.fault ≠ none ∨ s.first = none ∧ s.ahead.Barren

structure Sound (body : Ahead) (chunks : List BodyChunk) (s : HealthStream) : Prop where
  fits : s.reader.Fits s.body
  state : s.Whole body chunks ∨ s.Broken

variable {body : Ahead} {chunks : List BodyChunk}

namespace Steps

theorem whole (h : s.Steps out) (hfits : s.reader.Fits s.body) (hs : s.Whole body chunks) :
    out.2.Whole body chunks ∨ out.2.Broken ∧ ∃ e, out.1 = .failed e := by
  have hdue : out.2.due <:+ verdicts body.text := by
    obtain ⟨-, hdue⟩ | ⟨-, hdue, -⟩ := h.due
    · exact (List.suffix_cons ..).trans (hdue ▸ hs.due)
    · exact hdue ▸ List.nil_suffix
  cases h with
  | first hfirst => exact .inl ⟨hs.inStep, hdue, hs.remainder, hs.fault⟩
  | @call x r b hfirst hcall _ hx hahead =>
    have hahead' : (HealthStream.mk s.version b r none).ahead = s.ahead.next.2 := hahead
    obtain hstep | ⟨hfailed, hbarren⟩ := hs.inStep.call hfits.wf hcall
    · obtain hfault | ⟨hfailed, hbarren⟩ := s.ahead.fault_next_cases
      · refine .inl ⟨hstep, hdue, ?_, ?_⟩
        · rw [hahead', Ahead.remainder_next, hs.remainder]
        · rw [hahead', hfault, hs.fault]
      · exact .inr ⟨.inr ⟨rfl, hahead' ▸ hbarren⟩, hx ▸ hfailed⟩
    · exact .inr ⟨.inr ⟨rfl, hbarren⟩, hfailed⟩

theorem fault (h : s.Steps out) (hs : s.ahead.fault ≠ none) :
    out.2.ahead.fault ≠ none ∧ out.1 ≠ .ended ∨
      (∃ e, out.1 = .failed e) ∧ out.2.first = none ∧ out.2.ahead.Barren := by
  cases h with
  | first hfirst => exact .inl ⟨hs, by simp⟩
  | @call x r b _ _ _ hx hahead =>
    have hahead' : (HealthStream.mk s.version b r none).ahead = s.ahead.next.2 := hahead
    rw [hahead', hx]
    exact (Ahead.fault_next hs).imp_right fun ⟨hfailed, hbarren⟩ => ⟨hfailed, rfl, hbarren⟩

theorem broken (h : s.Steps out) (hs : s.Broken) : out.2.Broken := by
  obtain hfault | ⟨hnone, hbarren⟩ := hs
  · exact (h.fault hfault).imp And.left And.right
  · cases h with
    | first hfirst => simp [hnone] at hfirst
    | call _ _ _ _ hahead => exact .inr ⟨rfl, by rw [HealthStream.ahead, hahead]; exact hbarren.next⟩

end Steps

theorem Sound.next (h : s.Sound body chunks) : s.next.2.Sound body chunks := by
  have hnext := steps_next h.fits
  refine ⟨hnext.fits h.fits, ?_⟩
  obtain hw | hb := h.state
  · exact (hnext.whole h.fits hw).imp_right And.left
  · exact .inr (hnext.broken hb)

theorem Sound.close (h : s.Sound body chunks) : s.close.Sound body chunks := by
  obtain ⟨hfits, hahead | ⟨t, f, -, hahead⟩⟩ := Body.fits_close h.fits
  · have hahead' : s.close.ahead = s.ahead := hahead
    refine ⟨hfits, h.state.imp (fun hw => ⟨hw.inStep.close, ?_, ?_, ?_⟩) fun hb => ?_⟩
    · rw [due, hahead']
      exact hw.due
    · rw [hahead']
      exact hw.remainder
    · rw [hahead']
      exact hw.fault
    · rw [Broken, hahead']
      exact hb
  · have hahead' : s.close.ahead.fault = some f := congrArg Ahead.fault hahead
    exact ⟨hfits, .inr (.inl (by simp [hahead']))⟩

namespace Drains

theorem unique {last' : HealthStream} {ds' : List Members} {e' : Option ReadError}
    (h : Drains s ds e last) (h' : Drains s ds' e' last') : ds = ds' ∧ e = e' := by
  induction h generalizing ds' e' last' with
  | document hn _ ih =>
    cases h' with
    | document hn' h' =>
      rw [hn] at hn'
      cases hn'
      obtain ⟨rfl, rfl⟩ := ih h'
      exact ⟨rfl, rfl⟩
    | ended hn' | failed hn' => simp [hn] at hn'
  | ended hn =>
    cases h' with
    | document hn' | failed hn' => simp [hn] at hn'
    | ended => exact ⟨rfl, rfl⟩
  | failed hn =>
    cases h' with
    | document hn' | ended hn' => simp [hn] at hn'
    | failed hn' =>
      rw [hn] at hn'
      cases hn'
      exact ⟨rfl, rfl⟩

theorem sound (h : Drains s ds e last) (hs : s.Sound body chunks) : last.Sound body chunks := by
  induction h with
  | document hn _ ih =>
    have hnext := hs.next
    rw [hn] at hnext
    exact ih hnext
  | ended hn | failed hn =>
    have hnext := hs.next
    rw [hn] at hnext
    exact hnext

theorem error_of_fault (h : Drains s ds e last) (hfits : s.reader.Fits s.body)
    (hs : s.ahead.fault ≠ none) : e ≠ none := by
  have hnext := steps_next hfits
  induction h with
  | document hn _ ih =>
    rw [hn] at hnext
    obtain ⟨hfault, -⟩ | ⟨⟨e, hfailed⟩, -⟩ := hnext.fault hs
    · exact ih (hnext.fits hfits) hfault (steps_next (hnext.fits hfits))
    · cases hfailed
  | ended hn =>
    rw [hn] at hnext
    obtain ⟨-, hended⟩ | ⟨⟨e, hfailed⟩, -⟩ := hnext.fault hs
    · exact absurd rfl hended
    · cases hfailed
  | failed hn => exact Option.some_ne_none _

theorem due (h : Drains s ds none last) (hfits : s.reader.Fits s.body) :
    s.due = ds.map .document := by
  generalize hnone : none = e at h
  have hnext := steps_next hfits
  induction h with
  | document hn _ ih =>
    rw [hn] at hnext
    obtain ⟨-, hdue⟩ | ⟨-, -, hno⟩ := hnext.due
    · have hfits' := hnext.fits hfits
      rw [hdue, ih hfits' hnone (steps_next hfits'), List.map_cons]
    · exact absurd rfl (hno _)
  | ended hn =>
    rw [hn] at hnext
    obtain ⟨hended, -⟩ | ⟨hdue, -⟩ := hnext.due
    · exact absurd rfl hended
    · exact hdue
  | failed => cases hnone

theorem eq_nil_of_broken (h : Drains s ds none last) (hfits : s.reader.Fits s.body)
    (hs : s.Broken) : ds = [] := by
  obtain hfault | ⟨hnone, hbarren⟩ := hs
  · exact absurd rfl (h.error_of_fault hfits hfault)
  · have hdue := h.due hfits
    simpa [HealthStream.due, hnone, hbarren.verdicts] using hdue.symm

theorem whole (h : Drains s ds none last) (hfits : s.reader.Fits s.body)
    (hs : s.Whole body chunks) :
    last.Whole body chunks ∧ last.reader.exhausted = true ∧ last.ahead.text = [] := by
  generalize hnone : none = e at h
  have hnext := steps_next hfits
  induction h with
  | document hn _ ih =>
    rw [hn] at hnext
    obtain hw | ⟨-, e, hfailed⟩ := hnext.whole hfits hs
    · have hfits' := hnext.fits hfits
      exact ih hfits' hw hnone (steps_next hfits')
    · cases hfailed
  | ended hn =>
    rw [hn] at hnext
    obtain hw | ⟨-, e, hfailed⟩ := hnext.whole hfits hs
    · exact ⟨hw, hnext.ended⟩
    · cases hfailed
  | failed => cases hnone

end Drains

theorem Sound.read (h : s.Sound body chunks) : s.read.2.2.Sound body chunks := by
  obtain ⟨last, hdrains, hlast⟩ := drains_readAll h.fits
  rw [stream_read, hlast]
  exact (hdrains.sound h).close

theorem isClosed_read (s : HealthStream) : s.read.2.2.isClosed = true := by
  rw [stream_read]
  exact Body.isClosed_close _

theorem read_eq_ok {report : HealthInfo} (h : s.read.1 = .ok report) :
    ∃ d, s.readAll.2.1 = none ∧ s.readAll.1.getLast? = some d ∧
      HealthInfo.ofJson (.obj d) = .ok report := by
  revert h
  rw [HealthStream.read]
  rcases s.readAll with ⟨ds, e, s'⟩
  intro h
  cases e with
  | some e => cases h
  | none =>
    cases hd : ds.getLast? with
    | none => simp [hd] at h
    | some d =>
      cases hj : HealthInfo.ofJson (.obj d) with
      | error es => simp [hd, hj] at h
      | ok r => exact ⟨d, rfl, rfl, by simpa [hd, hj] using h⟩

end HealthStream

open HealthStream (Sound)

theorem negotiate_of_request {s s' : Session} {types : List String} {deadline : Duration}
    {timeout : Option Quantity} {r : Response} {version : AnyText} {sent : List SentRequest}
    (h : s.request types deadline timeout (.response r) = (.ok version, sent, s')) :
    ∃ stream, r.status = 200 ∧ negotiate r.body = .ok stream ∧ stream.version = version ∧
      s' = ⟨s.transport, some stream, true, .stream⟩ := by
  have hends := ends_requestHealthInfo s.transport types deadline timeout r
  rw [Session.request] at h
  generalize requestHealthInfo s.transport types deadline timeout (.response r) = n at h hends
  cases hresult : n.result with
  | error x =>
    rw [hresult] at h
    cases h
  | ok stream =>
    obtain ⟨hstatus, hn⟩ := hends.negotiate hresult
    rw [hresult] at h
    cases h
    exact ⟨stream, hstatus, hn, rfl, rfl⟩

theorem call_of_negotiate {body : Body} {s : HealthStream} (h : negotiate body = .ok s) :
    ∃ d, Reader.initial.Call body (.document d, s.reader, s.body) := by
  have hcall := Reader.call_next .initial body
  rw [negotiate] at h
  rcases hn : Reader.initial.next body with ⟨x, r, b⟩
  rw [hn] at h hcall
  cases x with
  | failed e => cases h
  | ended => cases h
  | document d =>
    cases hj : judge d with
    | error e => simp [hj] at h
    | ok version =>
      obtain rfl : ⟨version, b, r, some d⟩ = s := by simpa [hj] using h
      exact ⟨d, hcall⟩

theorem inStep_of_negotiate {wire : Wire} {headers : Headers} {chunks : List BodyChunk} {s : HealthStream}
    (h : negotiate (.ofChunks wire headers chunks) = .ok s) : Body.InStep chunks s.reader s.body := by
  obtain ⟨_, hcall⟩ := call_of_negotiate h
  have hstart : Body.InStep chunks .initial (.ofChunks wire headers chunks) :=
    ⟨.ofChunks wire headers chunks, by simp [Reader.initial]⟩
  refine (hstart.call Reader.wf_initial hcall).resolve_right ?_
  rintro ⟨⟨e, he⟩, -⟩
  cases he

def wholeBody (wire : Wire) (headers : Headers) (chunks : List BodyChunk) : Ahead :=
  ⟨Body.text wire headers chunks, Body.fault? wire headers chunks⟩

namespace Session

end Session

structure Complete (wire : Wire) (headers : Headers) (chunks : List BodyChunk) (b : Body)
    (report : HealthInfo) : Prop where
  octets : ∀ c ∈ chunks, ∃ bs, c = .octets bs
  pulled : b.pulled = chunks.length
  finished : b.finished = true
  faultless : Body.fault? wire headers chunks = none
  remainder : remainder (Body.text wire headers chunks) = .short []
  last : ∃ p d, (pieces (Body.text wire headers chunks)).getLast? = some p ∧
    Json.decode (String.ofList p) = .ok (.obj d) ∧ HealthInfo.ofJson (.obj d) = .ok report

theorem HealthStream.Sound.complete {wire : Wire} {headers : Headers} {chunks : List BodyChunk}
    {s : HealthStream} {report : HealthInfo} (h : s.Sound (wholeBody wire headers chunks) chunks)
    (hread : s.read.1 = .ok report) : Complete wire headers chunks s.read.2.2.body report := by
  obtain ⟨d, hnone, hlast, hreport⟩ := HealthStream.read_eq_ok hread
  obtain ⟨last, hdrains, hclose⟩ := HealthStream.drains_readAll h.fits
  rw [hnone] at hdrains
  -- a stream that was cut off hands out nothing more, and a last document was handed out
  have hwhole : s.Whole (wholeBody wire headers chunks) chunks := by
    refine h.state.resolve_right fun hbroken => ?_
    rw [hdrains.eq_nil_of_broken h.fits hbroken] at hlast
    cases hlast
  obtain ⟨hend, hexhausted, hempty⟩ := hdrains.whole h.fits hwhole
  have hfinished : last.close.body.finished = true := hend.inStep.close.finished hexhausted
  obtain ⟨hleft, hending⟩ := hend.inStep.close.intact.finished hfinished
  obtain ⟨seen, hseen, hpulled⟩ := hend.inStep.close.intact.pulled hending
  rw [hleft, List.append_nil] at hseen
  rw [HealthStream.stream_read, hclose]
  refine ⟨?_, ?_, hfinished, ?_, ?_, ?_⟩
  · rw [hseen]
    simp
  · rw [hseen, List.length_map]
    exact hpulled
  · by_contra hfault
    exact hdrains.error_of_fault h.fits (hwhole.fault ▸ hfault) rfl
  · have hremainder := hend.remainder
    rw [hempty, remainder_eq] at hremainder
    exact hremainder.symm
  · obtain ⟨given, hgiven⟩ := hwhole.due
    rw [hdrains.due h.fits] at hgiven
    have hverdict : (verdicts (Body.text wire headers chunks)).getLast? = some (.document d) := by
      have htext : verdicts (Body.text wire headers chunks) =
          given ++ s.readAll.1.map .document := hgiven.symm
      simp [htext, hlast]
    rw [verdicts, List.getLast?_map, Option.map_eq_some_iff] at hverdict
    obtain ⟨p, hp, hd⟩ := hverdict
    exact ⟨p, d, hp, (verdict_eq_document_iff _ _).1 hd, hreport⟩

end ClusterHealth.Admin

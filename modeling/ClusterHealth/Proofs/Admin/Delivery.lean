import ClusterHealth.Admin.Session
import ClusterHealth.Proofs.Admin.Opening
import ClusterHealth.Proofs.Admin.Release

/-!
What the holder of a stream gets, whatever is done with it: the pieces of the body in order, each once,
the first of them again although the request has read it. All else that comes are errors that tell of
no piece, and behind such an error no piece comes.
-/

namespace ClusterHealth.Admin

open ClusterHealth.Report ClusterHealth.Stream ClusterHealth.Web Framing

/-- An error that tells of no piece; one about a stray character comes behind all pieces only. -/
inductive Beyond (text : List Char) (given : List Reading) : Reading → Prop
  | unfinished : Beyond text given (.failed .unfinished)
  | fault : Beyond text given (.failed (.ofFault f))
  | stray : given = verdicts text → remainder text = .stray t →
      Beyond text given (.failed .notObject)

/-- What was given of a text, what came behind it, and what is still to be given: the first document and
what lies ahead, which is the rest of the text or a part of it. -/
structure Owes (text : List Char) (given behind : List Reading) (first : Option Members)
    (a : Ahead) : Prop where
  owed : ∃ lost, verdicts text = given ++ (first.toList.map .document ++ verdicts (a.text ++ lost)) ∧
    remainder text = remainder (a.text ++ lost)
  begun : given = [] → first ≠ none
  last : behind ≠ [] → first = none ∧ ∀ p rest, front a.text ≠ .piece p rest
  beyond : ∀ r ∈ behind, Beyond text given r

namespace Owes

variable {text : List Char} {given behind : List Reading} {first : Option Members} {a : Ahead}

theorem start {d : Members} {p rest : List Char} (hf : front text = .piece p rest)
    (hd : .document d = verdict (Json.decode (String.ofList p))) (f : Option Fault) :
    Owes text [] [] (some d) ⟨rest, f⟩ := by
  refine ⟨⟨[], ?_, ?_⟩, by simp, by simp, by simp⟩
  · simp [verdicts_of_piece hf, hd]
  · simp [remainder_of_piece hf]

theorem first_given {d : Members} (h : Owes text given behind (some d) a) :
    behind = [] ∧ Owes text (given ++ [.document d]) [] none a := by
  obtain ⟨⟨lost, hv, hr⟩, -, hlast, -⟩ := h
  refine ⟨?_, ⟨lost, by simpa using hv, hr⟩, by simp, by simp, by simp⟩
  by_contra hne
  simpa using (hlast hne).1

theorem cut {t lost : List Char} {f : Option Fault} (h : Owes text given behind first a)
    (ht : a.text = t ++ lost) : Owes text given behind first ⟨t, f⟩ := by
  obtain ⟨⟨lost', hv, hr⟩, hbegun, hlast, hbeyond⟩ := h
  refine ⟨⟨lost ++ lost', ?_, ?_⟩, hbegun,
    fun hne => ⟨(hlast hne).1, fun p rest hp => ?_⟩, hbeyond⟩
  · rw [hv, ht, List.append_assoc]
  · rw [hr, ht, List.append_assoc]
  · refine (hlast hne).2 p (rest ++ lost) ?_
    rw [ht, front_append, hp]

theorem next_of_piece {p rest : List Char} (h : Owes text given behind none a)
    (hf : front a.text = .piece p rest) :
    behind = [] ∧ a.next.1.handed = [a.next.1] ∧
      Owes text (given ++ [a.next.1]) [] none a.next.2 := by
  obtain ⟨⟨lost, hv, hr⟩, -, hlast, -⟩ := h
  have happ : front (a.text ++ lost) = .piece p (rest ++ lost) := by rw [front_append, hf]
  rw [verdicts_of_piece happ] at hv
  rw [remainder_of_piece happ] at hr
  rw [Ahead.next_of_piece hf]
  refine ⟨?_, handed_verdict _, ⟨lost, by simpa using hv, hr⟩, by simp, by simp, by simp⟩
  by_contra hne
  exact (hlast hne).2 p rest hf

theorem beyond_next (h : Owes text given behind none a)
    (hf : ∀ p rest, front a.text ≠ .piece p rest) : ∀ r ∈ a.next.1.handed, Beyond text given r := by
  obtain ⟨⟨lost, hv, hr⟩, -, -, -⟩ := h
  cases hx : front a.text with
  | piece p rest => exact absurd hx (hf p rest)
  | short t =>
    obtain hn | hn | ⟨f, hn⟩ := Ahead.next_of_short hx
    · simp [hn, Reading.handed]
    · simpa [hn, Reading.handed] using Beyond.unfinished
    · simpa [hn, Reading.handed] using Beyond.fault
  | stray t =>
    have happ : front (a.text ++ lost) = .stray (t ++ lost) := by rw [front_append, hx]
    have hall : given = verdicts text := by simp [hv, verdicts_eq, happ]
    have hstray : remainder text = .stray (t ++ lost) := by rw [hr, remainder_eq, happ]
    simpa [Ahead.next_of_stray hx, Reading.handed] using Beyond.stray hall hstray

theorem next_of_ne_piece (h : Owes text given behind none a)
    (hf : ∀ p rest, front a.text ≠ .piece p rest) :
    Owes text given (behind ++ a.next.1.handed) none a.next.2 := by
  have hnew := h.beyond_next hf
  obtain ⟨⟨lost, hv, hr⟩, hbegun, -, hbeyond⟩ := h
  have hfront := front_rest_append hf lost
  refine ⟨⟨lost, ?_, ?_⟩, hbegun, fun _ => ⟨rfl, ?_⟩, fun r hmem => ?_⟩
  · rw [Ahead.text_next, verdicts_congr hfront]
    exact hv
  · rw [Ahead.text_next, remainder_congr hfront]
    exact hr
  · rw [Ahead.text_next, front_rest hf]
    exact hf
  · exact (List.mem_append.1 hmem).elim (hbeyond r) (hnew r)

theorem next (h : Owes text given behind none a) :
    ∃ given' behind', given' ++ behind' = given ++ behind ++ a.next.1.handed ∧
      Owes text given' behind' none a.next.2 := by
  by_cases hf : ∃ p rest, front a.text = .piece p rest
  · obtain ⟨p, rest, hf⟩ := hf
    obtain ⟨rfl, hh, h⟩ := h.next_of_piece hf
    exact ⟨_, _, by simp [hh], h⟩
  · exact ⟨_, _, by simp, h.next_of_ne_piece fun p rest hp => hf ⟨p, rest, hp⟩⟩

end Owes

theorem HealthStream.stream_read (s : HealthStream) : s.read.2.2 = s.readAll.2.2 := by
  rw [read]
  rcases s.readAll with ⟨ds, e, s'⟩
  cases e with
  | some e => rfl
  | none =>
    cases hd : ds.getLast? with
    | none => simp [hd]
    | some d => cases hj : HealthInfo.ofJson (.obj d) <;> simp [hd, hj]

structure HealthStream.Delivers (s : HealthStream) (text : List Char) (out : List Reading) : Prop where
  fits : s.reader.Fits s.body
  owes : ∃ given behind, given ++ behind = out ∧
    Owes text given behind s.first (s.reader.ahead s.body)

namespace HealthStream.Delivers

variable {text : List Char} {out : List Reading} {s : HealthStream}

theorem next (h : s.Delivers text out) : s.next.2.Delivers text (out ++ s.next.1.handed) := by
  obtain ⟨hfits, given, behind, rfl, howes⟩ := h
  rw [HealthStream.next]
  cases hfirst : s.first with
  | some d =>
    rw [hfirst] at howes
    obtain ⟨rfl, hgiven⟩ := howes.first_given
    exact ⟨hfits, given ++ [.document d], [], by simp [Reading.handed], hgiven⟩
  | none =>
    rw [hfirst] at howes
    have hn := Reader.next_agrees hfits
    obtain ⟨given', behind', hout, hnext⟩ := howes.next
    rw [← hn.reading] at hout
    rw [← hn.ahead] at hnext
    exact ⟨hn.fits, given', behind', hout, hnext⟩

theorem close (h : s.Delivers text out) : s.close.Delivers text out := by
  obtain ⟨hfits, given, behind, hout, howes⟩ := h
  obtain ⟨hclosed, hahead⟩ := Body.fits_close hfits
  refine ⟨hclosed, given, behind, hout, ?_⟩
  change Owes text given behind s.first (s.reader.ahead s.body.close)
  obtain hahead | ⟨t, f, ⟨lost, hlost⟩, hahead⟩ := hahead <;> rw [hahead]
  · exact howes
  · exact howes.cut hlost.symm

theorem drain (h : s.Delivers text out) (steps : Nat) :
    (s.drain steps).2.2.Delivers text
      (out ++ Session.handedOut (s.drain steps).1 (s.drain steps).2.1) := by
  induction steps generalizing out s with
  | zero => simpa [HealthStream.drain, Session.handedOut] using h
  | succ steps ih =>
    have hnext := h.next
    rw [HealthStream.drain]
    rcases hn : s.next with ⟨reading, s'⟩
    rw [hn] at hnext
    cases reading with
    | document d => simpa [Session.handedOut, Reading.handed] using ih hnext
    | ended => simpa [Session.handedOut, Reading.handed] using hnext
    | failed e => simpa [Session.handedOut, Reading.handed] using hnext

theorem read (h : s.Delivers text out) :
    s.read.2.2.Delivers text (out ++ Session.handedOut s.readAll.1 s.readAll.2.1) := by
  rw [stream_read]
  exact (h.drain s.stepsLeft).close

end HealthStream.Delivers

namespace Session

variable {text : List Char} {out : List Reading} {s : Session} {stream : HealthStream}

end Session

def twoDocuments : List BodyChunk :=
  [.octets (Text.octets "\x7b\"version\":\"1\"\x7d\n\x7b\"versi"),
    .octets (Text.octets "on\":\"1\"\x7d"), .fault (.raised .read [])]

def answer (chunks : List BodyChunk) : Except Error AnyText × List SentRequest × Session :=
  (Session.ofTransport localTransport).request ["minioinfo"] ⟨60000000, by decide, by decide⟩ none
    (.response ⟨200, [], none, .ofChunks .plain [] chunks⟩)

end ClusterHealth.Admin

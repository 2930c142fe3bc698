import ClusterHealth.Proofs.Json.Bracketed
import ClusterHealth.Proofs.Stream.ReaderLaws

namespace ClusterHealth.Stream

open Framing

def IsTrimmed (t : List Char) : Prop :=
  (∀ c ∈ t.head?, Json.isBlank c = false) ∧ ∀ c ∈ t.getLast?, Json.isBlank c = false

inductive Holds : List Char → List Members → Prop
  | nil : (∀ c ∈ w, Json.isBlank c) → Holds w []
  | cons : (∀ c ∈ w, Json.isBlank c) → IsTrimmed t → Json.decode (String.ofList t) = .ok (.obj d) →
      Holds rest ds → Holds (w ++ t ++ rest) (d :: ds)

namespace Framing

theorem isTrimmed_of_front {t p rest : List Char} (h : front t = .piece p rest) : IsTrimmed p := by
  obtain ⟨c, u, -, ho, hp, -⟩ := front_eq_piece h
  obtain ⟨q, b, hq, hb⟩ := piece?_eq_append ho hp
  obtain ⟨d, v, rfl⟩ : ∃ d v, p = d :: v := List.exists_cons_of_ne_nil (piece?_ne_nil hp)
  obtain ⟨rfl, -⟩ := List.cons_prefix_cons.1 (prefix_of_piece? hp)
  refine ⟨by simpa using not_isBlank_of_isOpening ho, ?_⟩
  rw [hq]
  simp only [Scan.isClosing, Bool.or_eq_true, beq_iff_eq] at hb
  rcases hb with rfl | rfl <;> simp [Json.isBlank]

theorem number_ne_obj {s left : List Char} {d : Members} : Json.number s ≠ .ok (.obj d, left) := by
  intro h
  unfold Json.number at h
  split at h
  split at h
  · cases h
  · dsimp only at h
    split at h
    · split at h <;> cases h
    · cases h

theorem word_ne_obj {s left : List Char} {d : Members} : Json.word? s ≠ some (.obj d, left) := by
  intro h
  obtain ⟨⟨w, v⟩, hmem, hw⟩ := List.exists_of_findSome?_eq_some h
  have hv : ∀ x ∈ Json.wordValues, x.2 ≠ .obj d := by simp [Json.wordValues]
  obtain ⟨-, rfl, -⟩ : _ ∧ v = .obj d ∧ _ := by simpa using hw
  exact hv _ hmem rfl

theorem scalar_ne_obj {s left : List Char} {d : Members} : Json.scalar s ≠ .ok (.obj d, left) := by
  intro h
  unfold Json.scalar at h
  split at h
  · next rest => cases hs : Json.string rest <;> simp [hs, Except.map] at h
  · split at h
    · next r hw =>
      cases h
      exact word_ne_obj hw
    · exact number_ne_obj h

theorem value_of_decode {t : List Char} {d : Members}
    (h : Json.decode (String.ofList t) = .ok (.obj d)) :
    ∃ c u left steps levels, Json.skipBlanks t = c :: u ∧ Scan.isOpening c ∧
      Json.value steps levels (c :: u) = .ok (.obj d, left) ∧ Json.skipBlanks left = [] := by
  simp only [Json.decode, Json.document, String.toList_ofList] at h
  split at h
  · cases h
  split at h
  · next v hdoc =>
    cases h
    split at hdoc
    · cases hdoc
    next v left hvalue =>
    split at hdoc
    · next hleft =>
      cases hdoc
      by_cases hs : ∀ c ∈ (Json.skipBlanks t).head?, Scan.isOpening c = false
      · rw [value_eq_scalar hs] at hvalue
        exact absurd hvalue scalar_ne_obj
      · cases hu : Json.skipBlanks t with
        | nil => simp [hu] at hs
        | cons c u => exact ⟨c, u, left, _, _, rfl, by simpa [hu] using hs, hu ▸ hvalue, hleft⟩
    · cases hdoc
  · cases h

theorem front_of_decode {t : List Char} {d : Members} (ht : IsTrimmed t)
    (h : Json.decode (String.ofList t) = .ok (.obj d)) (rest : List Char) :
    front (t ++ rest) = .piece t rest := by
  obtain ⟨c, u, left, steps, levels, hu, ho, hvalue, hleft⟩ := value_of_decode h
  obtain rfl : t = c :: u := by
    rw [← hu]
    cases t with
    | nil => rfl
    | cons b t =>
      have hb : Json.isBlank b = false := by simpa using ht.1
      simp [Json.skipBlanks, hb]
  obtain ⟨p, hp, hcut⟩ := cut_of_value ho hvalue
  -- what is left is blank, and the last character is not
  obtain rfl : left = [] := by
    rw [hp] at ht
    rcases List.eq_nil_or_concat left with rfl | ⟨q, b, rfl⟩
    · rfl
    · have hb : Json.isBlank b = true := by
        have hall := List.dropWhile_eq_nil_iff.1 hleft
        exact hall b (by simp)
      simp [IsTrimmed, hb] at ht
  obtain rfl : p = c :: u := by simpa using hp.symm
  have hpiece : piece? (c :: u) = some (c :: u) := by
    rw [Scan.cut_eq_piece? ho] at hcut
    cases hq : piece? (c :: u) with
    | none => simp [hq] at hcut
    | some q =>
      rw [hq] at hcut
      simp at hcut
      rw [hcut.2.1]
  have hfront : front (c :: u) = .piece (c :: u) [] := by
    simp [front, ho, hpiece]
  rw [front_append, hfront]
  rfl

theorem front_blanks_append {w : List Char} (h : ∀ c ∈ w, Json.isBlank c) (t : List Char) :
    front (w ++ t) = front t := by
  simp [front, Json.skipBlanks, List.dropWhile_append_of_pos h]

theorem verdict_ne_ended (r : Except Json.DecodeError Json) : verdict r ≠ .ended := by
  rcases r with (_ | _) | v
  · simp [verdict]
  · simp [verdict]
  · simp [verdict]
  · cases v <;> simp [verdict]

theorem verdict_eq_document_iff (r : Except Json.DecodeError Json) (d : Members) :
    verdict r = .document d ↔ r = .ok (.obj d) := by
  rcases r with (_ | _) | v
  · simp [verdict]
  · simp [verdict]
  · simp [verdict]
  · cases v <;> simp [verdict]

theorem reading_eq_ended_iff (t : List Char) :
    (front t).reading = .ended ↔ ∀ c ∈ t, Json.isBlank c := by
  have hblank : (∀ c ∈ t, Json.isBlank c) ↔ Json.skipBlanks t = [] := List.dropWhile_eq_nil_iff.symm
  rw [hblank]
  obtain ⟨ht, hf⟩ | ⟨c, u, ht, ⟨-, hf⟩ | ⟨-, -, hf⟩ | ⟨-, p, -, hf⟩⟩ := front_cases t
  · simp [hf, ht, Front.reading]
  · simp [hf, ht, Front.reading]
  · simp [hf, ht, Front.reading]
  · simp [hf, ht, Front.reading, verdict_ne_ended]

theorem reading_eq_document_iff (t : List Char) (d : Members) :
    (front t).reading = .document d ↔
      ∃ p rest, front t = .piece p rest ∧ Json.decode (String.ofList p) = .ok (.obj d) := by
  cases hf : front t with
  | short t => cases t <;> simp [Front.reading]
  | stray t => simp [Front.reading]
  | piece p rest => simp [Front.reading, verdict_eq_document_iff]

theorem frames_eq_iff_holds (t : List Char) (ds : List Members) :
    frames (ds.length + 1) t = ds.map .document ++ [.ended] ↔ Holds t ds := by
  induction ds generalizing t with
  | nil =>
    constructor
    · intro h
      exact .nil ((reading_eq_ended_iff t).1 (by simpa [frames] using h))
    · intro h
      cases h with
      | nil hw => simpa [frames] using (reading_eq_ended_iff t).2 hw
  | cons d ds ih =>
    simp only [List.length_cons, List.map_cons, List.cons_append]
    rw [frames, List.cons.injEq, reading_eq_document_iff, ih]
    constructor
    · rintro ⟨⟨p, rest, hf, hd⟩, hrest⟩
      obtain ⟨w, hw, rfl⟩ := eq_append_of_front hf
      rw [hf] at hrest
      exact .cons hw (isTrimmed_of_front hf) hd hrest
    · intro h
      cases h with
      | @cons w p _ rest _ hw hp hd hrest =>
        have hf : front (w ++ p ++ rest) = .piece p rest := by
          rw [List.append_assoc, front_blanks_append hw, front_of_decode hp hd]
        rw [hf]
        exact ⟨⟨p, rest, rfl, hd⟩, hrest⟩

end Framing

theorem readings_eq_documents_iff (chunks : List (List Char)) (ds : List Members) :
    (readings (ds.length + 1) .initial (.ofList (chunks.map .text))).map Prod.fst =
      ds.map .document ++ [.ended] ↔ Holds chunks.flatten ds := by
  have hahead := Reader.ahead_initial chunks
  rw [map_readings (Reader.fits_initial chunks) (by rw [hahead]), hahead]
  exact frames_eq_iff_holds ..

end ClusterHealth.Stream

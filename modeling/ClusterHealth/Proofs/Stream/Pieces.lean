import ClusterHealth.Proofs.Stream.Documents

namespace ClusterHealth.Stream

namespace Framing

theorem length_rest_lt {t p rest : List Char} (h : front t = .piece p rest) :
    rest.length < t.length := by
  obtain ⟨c, u, hu, -, hp, happ⟩ := front_eq_piece h
  have hle : (Json.skipBlanks t).length ≤ t.length := (List.dropWhile_suffix _).length_le
  have hpos : 0 < p.length := List.length_pos_iff.2 (piece?_ne_nil hp)
  rw [hu, ← happ, List.length_append] at hle
  omega

def pieces (t : List Char) : List (List Char) :=
  match _ : front t with
  | .piece p rest => p :: pieces rest
  | _ => []
termination_by t.length
decreasing_by exact length_rest_lt ‹_›

def remainder (t : List Char) : Front :=
  match _ : front t with
  | .piece _ rest => remainder rest
  | x => x
termination_by t.length
decreasing_by exact length_rest_lt ‹_›

def decoded? (p : List Char) : Option Members :=
  match Json.decode (String.ofList p) with
  | .ok (.obj d) => some d
  | _ => none

def documents (t : List Char) : List Members := (pieces t).filterMap decoded?

def verdicts (t : List Char) : List Reading :=
  (pieces t).map fun p => verdict (Json.decode (String.ofList p))

theorem pieces_eq (t : List Char) :
    pieces t =
      match front t with
      | .piece p rest => p :: pieces rest
      | _ => [] := by
  rw [pieces]
  split <;> simp [*]

theorem remainder_eq (t : List Char) :
    remainder t =
      match front t with
      | .piece _ rest => remainder rest
      | x => x := by
  rw [remainder]
  split <;> simp [*]

theorem length_pieces_le (t : List Char) : (pieces t).length ≤ t.length := by
  induction t using pieces.induct with
  | case1 t p rest hf ih =>
    have hlt := length_rest_lt hf
    rw [pieces_eq, hf, List.length_cons]
    omega
  | case2 t hf =>
    rw [pieces_eq]
    split
    · next p rest hp => exact (hf p rest hp).elim
    · simp

theorem piece?_self {p rest : List Char} (h : piece? (p ++ rest) = some p) : piece? p = some p := by
  cases hp : piece? p with
  | none =>
    obtain ⟨q, hq, -, happ⟩ := piece?_append_of_none hp h
    exact absurd (List.self_eq_append_right.1 happ) hq
  | some q =>
    rw [piece?_append hp rest] at h
    exact h

theorem front_of_piece {t p rest : List Char} (h : front t = .piece p rest) :
    ∃ w, (∀ c ∈ w, Json.isBlank c) ∧ t = w ++ p ++ rest ∧ ∀ u, front (w ++ p ++ u) = .piece p u := by
  obtain ⟨c, v, -, ho, hp, happ⟩ := front_eq_piece h
  obtain ⟨w, hw, rfl⟩ := eq_append_of_front h
  refine ⟨w, hw, rfl, fun u => ?_⟩
  have hself : piece? p = some p := piece?_self (happ ▸ hp)
  obtain ⟨d, q, rfl⟩ : ∃ d q, p = d :: q := List.exists_cons_of_ne_nil (piece?_ne_nil hp)
  obtain ⟨rfl, -⟩ := List.cons_prefix_cons.1 (prefix_of_piece? hp)
  have hfront : front (d :: q) = .piece (d :: q) [] := by
    simp [front, ho, hself]
  rw [List.append_assoc, front_blanks_append hw, front_append, hfront]
  rfl

theorem length_rest_lt_of_short {t u v p rest : List Char} (ht : front t = .short u)
    (h : front (t ++ v) = .piece p rest) : rest.length < v.length := by
  obtain ⟨w, hw, happ, hfront⟩ := front_of_piece h
  obtain ⟨x, hx, hv⟩ | ⟨x, hx, hrest⟩ := List.append_eq_append_iff.1 happ
  · have hne : x ≠ [] := by
      rintro rfl
      simp at hx
      have := hfront []
      simp [hx, ht] at this
    have := List.length_pos_iff.2 hne
    rw [hv, List.length_append]
    omega
  · have := hfront x
    rw [← hx, ht] at this
    cases this

theorem length_pieces_append_le {t u : List Char} (ht : front t = .short u) (v : List Char) :
    (pieces (t ++ v)).length ≤ v.length := by
  rw [pieces_eq]
  cases hf : front (t ++ v) with
  | piece p rest =>
    have hlt := length_rest_lt_of_short ht hf
    have hle := length_pieces_le rest
    simp only [List.length_cons]
    omega
  | _ => simp

theorem verdicts_eq (t : List Char) :
    verdicts t =
      match front t with
      | .piece p rest => verdict (Json.decode (String.ofList p)) :: verdicts rest
      | _ => [] := by
  rw [verdicts, pieces_eq]
  cases front t <;> rfl

theorem verdicts_congr {t u : List Char} (h : front t = front u) : verdicts t = verdicts u := by
  rw [verdicts_eq t, verdicts_eq u, h]

theorem remainder_congr {t u : List Char} (h : front t = front u) : remainder t = remainder u := by
  rw [remainder_eq t, remainder_eq u, h]

theorem verdicts_of_piece {t p rest : List Char} (h : front t = .piece p rest) :
    verdicts t = verdict (Json.decode (String.ofList p)) :: verdicts rest := by
  rw [verdicts_eq, h]

theorem remainder_of_piece {t p rest : List Char} (h : front t = .piece p rest) :
    remainder t = remainder rest := by
  rw [remainder_eq, h]

theorem front_rest_append {t : List Char} (h : ∀ p rest, front t ≠ .piece p rest) (u : List Char) :
    front ((front t).rest ++ u) = front (t ++ u) := by
  rw [front_append (front t).rest, front_rest h, front_append t]

theorem handed_verdict (r : Except Json.DecodeError Json) : (verdict r).handed = [verdict r] := by
  cases h : verdict r with
  | ended => exact absurd h (verdict_ne_ended r)
  | document d => rfl
  | failed e => rfl

end Framing

open Framing

namespace Ahead

variable {a : Ahead}

theorem next_of_piece {p rest : List Char} (h : front a.text = .piece p rest) :
    a.next = (verdict (Json.decode (String.ofList p)), ⟨rest, a.fault⟩) := by
  simp [next, h, Front.reading, Front.rest]

theorem text_next (a : Ahead) : a.next.2.text = (front a.text).rest := by
  obtain ⟨text, fault⟩ := a
  cases fault <;> cases hf : front text <;> simp [next, hf, Front.rest]

theorem next_of_stray {t : List Char} (h : front a.text = .stray t) :
    a.next.1 = .failed .notObject := by
  simp [next, h, Front.reading]

theorem next_of_short {t : List Char} (h : front a.text = .short t) :
    a.next.1 = .ended ∨ a.next.1 = .failed .unfinished ∨ ∃ f, a.next.1 = .failed (.ofFault f) := by
  obtain ⟨text, fault⟩ := a
  cases fault with
  | some f => simp_all [next]
  | none => cases t <;> simp_all [next, Front.reading]

theorem exists_piece_of_next {d : Members} (h : a.next.1 = .document d) :
    ∃ p rest, front a.text = .piece p rest := by
  cases hf : front a.text with
  | piece p rest => exact ⟨p, rest, rfl⟩
  | stray t =>
    rw [next_of_stray hf] at h
    cases h
  | short t =>
    obtain hn | hn | ⟨f, hn⟩ := next_of_short hf <;> rw [hn] at h <;> cases h

def Barren (a : Ahead) : Prop := ∀ p rest, front a.text ≠ .piece p rest

theorem Barren.next (h : a.Barren) : a.next.2.Barren := by
  rw [Barren, text_next, front_rest h]
  exact h

theorem Barren.reading (h : a.Barren) (d : Members) : a.next.1 ≠ .document d := by
  intro hd
  obtain ⟨p, rest, hf⟩ := exists_piece_of_next hd
  exact h p rest hf

theorem Barren.verdicts (h : a.Barren) : verdicts a.text = [] := by
  rw [verdicts_eq]
  cases hf : front a.text with
  | piece p rest => exact absurd hf (h p rest)
  | _ => rfl

theorem fault_next (h : a.fault ≠ none) :
    a.next.2.fault ≠ none ∧ a.next.1 ≠ .ended ∨ (∃ e, a.next.1 = .failed e) ∧ a.next.2.Barren := by
  obtain ⟨text, _ | f⟩ := a
  · exact absurd rfl h
  · cases hf : front text with
    | short t => simp [next, hf, Barren, front_of_short hf]
    | stray t => simp [next, hf, Front.reading]
    | piece p rest => simp [next, hf, Front.reading, verdict_ne_ended]

theorem fault_next_cases (a : Ahead) :
    a.next.2.fault = a.fault ∨ (∃ e, a.next.1 = .failed e) ∧ a.next.2.Barren := by
  obtain ⟨text, _ | f⟩ := a
  · exact .inl (by simp [next])
  · cases hf : front text with
    | short t => exact .inr (by simp [next, hf, Barren, front_of_short hf])
    | stray t => exact .inl (by simp [next, hf])
    | piece p rest => exact .inl (by simp [next, hf])

theorem front_of_ended (h : a.next.1 = .ended) : front a.text = .short [] := by
  cases hf : front a.text with
  | piece p rest => simp [next_of_piece hf, verdict_ne_ended] at h
  | stray t => simp [next_of_stray hf] at h
  | short t =>
    obtain ⟨text, _ | f⟩ := a
    · cases t with
      | nil => rfl
      | cons c t => simp_all [next, Front.reading]
    · simp_all [next]

theorem length_text_le (chunks : List Chunk) :
    (ofChunks chunks).text.length ≤ Chunk.sizes chunks := by
  induction chunks with
  | nil => simp [ofChunks]
  | cons c chunks ih => cases c <;> simp [ofChunks, Chunk.sizes, ih]

theorem remainder_next (a : Ahead) : remainder a.next.2.text = remainder a.text := by
  rw [text_next]
  cases hf : front a.text with
  | piece p rest => rw [remainder_of_piece hf, Front.rest]
  | _ => 
    rw [← hf]
    exact remainder_congr (front_rest (by simp [hf]))

end Ahead

end ClusterHealth.Stream

import ClusterHealth.Proofs.Stream.Calls
import ClusterHealth.Proofs.Stream.Framing

/-!
A reader on a source of chunks does what framing the whole text does, wherever the text is cut. Between
two calls all that counts is what lies ahead: the text that is held or still to come, and whether a
fault follows it.
-/

namespace ClusterHealth.Stream

open Framing

structure Ahead where
  text : List Char
  fault : Option Fault

namespace Ahead

def ofChunks : List Chunk → Ahead
  | [] => ⟨[], none⟩
  | .text cs :: rest => ⟨cs ++ (ofChunks rest).text, (ofChunks rest).fault⟩
  | .fault f :: _ => ⟨[], some f⟩

def next (a : Ahead) : Reading × Ahead :=
  match a.fault, front a.text with
  | some f, .short t => (.failed (.ofFault f), ⟨t, none⟩)
  | fault, x => (x.reading, ⟨x.rest, fault⟩)

theorem next_congr {a b : Ahead} (ht : front a.text = front b.text) (hf : a.fault = b.fault) :
    a.next = b.next := by
  simp only [next, ht, hf]

end Ahead

open Scripted (script script_of_pull)

namespace Reader

structure Wf (r : Reader) : Prop where
  scanned : Scan.initial.cut [] r.taken.reverse = (r.scan, r.taken, none)
  opened : ∀ c ∈ r.taken.reverse.head?, Scan.isOpening c

theorem wf_initial : Wf initial := ⟨rfl, by simp [initial]⟩

def held (r : Reader) : List Char := r.taken.reverse ++ r.pending

def within (t cs : List Char) (exhausted : Bool) : Reader :=
  ⟨t.reverse, Scan.initial.run t, cs, exhausted⟩

@[simp] theorem held_within (t cs : List Char) (exhausted : Bool) :
    (within t cs exhausted).held = t ++ cs := by
  simp [within, held]

@[simp] theorem exhausted_within (t cs : List Char) (exhausted : Bool) :
    (within t cs exhausted).exhausted = exhausted := rfl

@[simp] theorem isEmpty_taken_within (t cs : List Char) (exhausted : Bool) :
    (within t cs exhausted).taken.isEmpty = t.isEmpty := by
  simp [within]

theorem wf_within {u t : List Char} (h : front u = .short t) (cs : List Char) (exhausted : Bool) :
    (within t cs exhausted).Wf := by
  obtain ⟨-, ht⟩ | ⟨c, v, -, ⟨-, ht⟩ | ⟨ho, hp, ht⟩ | ⟨-, p, -, ht⟩⟩ := front_cases u
  · obtain rfl : [] = t := by simpa [ht] using h
    exact ⟨rfl, by simp [within]⟩
  · simp [ht] at h
  · obtain rfl : c :: v = t := by simpa [ht] using h
    have hcut := Scan.cut_eq_piece? ho v
    rw [hp] at hcut
    exact ⟨by simpa [within] using hcut, by simpa [within] using ho⟩
  · simp [ht] at h

theorem front_taken {r : Reader} (h : r.Wf) : ∃ t, front r.taken.reverse = .short t := by
  obtain ⟨hscan, hopen⟩ := h
  cases ht : r.taken.reverse with
  | nil => exact ⟨[], rfl⟩
  | cons c t =>
    have ho : Scan.isOpening c := hopen c (by simp [ht])
    rw [ht, Scan.cut_eq_piece? ho] at hscan
    cases hp : piece? (c :: t) with
    | none => exact ⟨c :: t, by simp [front, ho, hp]⟩
    | some p => simp [hp] at hscan

def between (cs : List Char) (exhausted : Bool) : Reader := ⟨[], .initial, cs, exhausted⟩

@[simp] theorem held_between (cs : List Char) (exhausted : Bool) :
    (between cs exhausted).held = cs := by
  simp [between, held]

theorem wf_between (cs : List Char) (exhausted : Bool) : (between cs exhausted).Wf :=
  ⟨rfl, by simp [between]⟩

theorem advance_eq {r : Reader} (h : r.Wf) :
    r.advance =
      match front r.held with
      | .short t => (none, within t [] r.exhausted)
      | .stray t => (some (.failed .notObject), between t r.exhausted)
      | .piece p t => (some (readPiece p), between t r.exhausted) := by
  obtain ⟨taken, scan, pending, exhausted⟩ := r
  obtain ⟨hscan, hopen⟩ := h
  simp only at hscan hopen
  -- with nothing taken the front begins behind the blanks, else with what was taken
  cases ht : taken.reverse with
  | nil =>
    obtain rfl : taken = [] := by simpa using ht
    obtain rfl : Scan.initial = scan := by simpa [Scan.cut] using hscan
    cases hp : Json.skipBlanks pending with
    | nil => simp [advance, skip, startsBadly, held, front, hp, Scan.cut, within]
    | cons c t =>
      by_cases ho : Scan.isOpening c
      · have hcut := Scan.cut_eq_piece? ho t
        cases hpiece : piece? (c :: t) <;>
          simp [advance, skip, startsBadly, held, front, hp, ho, hpiece, hcut, within, between]
      · simp [advance, skip, startsBadly, held, front, hp, ho, between]
  | cons c t =>
    have ho : Scan.isOpening c := hopen c (by simp [ht])
    have hne : taken.isEmpty = false := by
      cases taken <;> simp_all
    have hcut : Scan.initial.cut [] (c :: (t ++ pending)) = scan.cut taken pending := by
      rw [← List.cons_append, Scan.cut_append, ← ht, hscan]
    rw [Scan.cut_eq_piece? ho] at hcut
    cases hpiece : piece? (c :: (t ++ pending)) <;> rw [hpiece] at hcut <;>
      simp [advance, skip, startsBadly, held, front, hne, ht, ho, hpiece, ← hcut, within, between]

theorem advance_eq_none {r r' : Reader} (h : r.Wf) (ha : r.advance = (none, r')) :
    ∃ t, front r.held = .short t ∧ r' = within t [] r.exhausted := by
  rw [advance_eq h] at ha
  cases hf : front r.held with
  | short t => exact ⟨t, rfl, by simpa [hf] using ha.symm⟩
  | stray t => simp [hf] at ha
  | piece p t => simp [hf] at ha

/-- A piece begins with a bracket, so that no mark can stand before what is decoded. -/
theorem readPiece_eq_verdict {u p t : List Char} (h : front u = .piece p t) :
    readPiece p = verdict (Json.decode (String.ofList p)) := by
  obtain ⟨c, v, -, ho, hp, -⟩ := front_eq_piece h
  obtain ⟨d, q, rfl⟩ : ∃ d q, p = d :: q := List.exists_cons_of_ne_nil (piece?_ne_nil hp)
  obtain ⟨rfl, -⟩ := List.cons_prefix_cons.1 (prefix_of_piece? hp)
  have hd : d ≠ Char.ofNat 0xFEFF := by
    rintro rfl
    simp [Scan.isOpening] at ho
  simp only [readPiece, Json.decode, String.toList_ofList, List.head?_cons, Option.some.injEq, hd,
    if_false]
  cases Json.document (d :: q) with
  | ok v => cases v <;> rfl
  | error e => cases e <;> rfl

variable {σ : Type} [TextSource σ] [Scripted σ] {r : Reader} {s : σ}

def ahead (r : Reader) (s : σ) : Ahead :=
  ⟨r.held ++ (Ahead.ofChunks (script s)).text, (Ahead.ofChunks (script s)).fault⟩

structure Fits (r : Reader) (s : σ) : Prop where
  wf : r.Wf
  exhausted : r.exhausted = true → script s = []

structure Agrees (out : Reading × Reader × σ) (a : Reading × Ahead) : Prop where
  reading : out.1 = a.1
  fits : out.2.1.Fits out.2.2
  ahead : out.2.1.ahead out.2.2 = a.2

theorem next_ahead_of_stray {t : List Char} (h : front r.held = .stray t) :
    (r.ahead s).next = (.failed .notObject, (between t r.exhausted).ahead s) := by
  have happ := front_append r.held (Ahead.ofChunks (script s)).text
  simp only [h] at happ
  simp [Ahead.next, ahead, happ, Front.reading, Front.rest]

theorem next_ahead_of_piece {p t : List Char} (h : front r.held = .piece p t) :
    (r.ahead s).next = (readPiece p, (between t r.exhausted).ahead s) := by
  have happ := front_append r.held (Ahead.ofChunks (script s)).text
  simp only [h] at happ
  simp [Ahead.next, ahead, happ, Front.reading, Front.rest, readPiece_eq_verdict h]

theorem next_ahead_within {s' : σ} {t cs : List Char} {exhausted : Bool}
    (h : front r.held = .short t)
    (htext : (Ahead.ofChunks (script s)).text = cs ++ (Ahead.ofChunks (script s')).text)
    (hfault : (Ahead.ofChunks (script s)).fault = (Ahead.ofChunks (script s')).fault) :
    ((within t cs exhausted).ahead s').next = (r.ahead s).next := by
  apply Ahead.next_congr
  · simp only [ahead, htext, held_within]
    rw [List.append_assoc, front_append r.held, h]
  · exact hfault.symm

theorem agrees_known {x : Reading} {r' : Reader} (h : r.Fits s) (ha : r.advance = (some x, r')) :
    Agrees (x, r', s) (r.ahead s).next := by
  rw [advance_eq h.wf] at ha
  cases hf : front r.held with
  | short t => simp [hf] at ha
  | stray t =>
    have hnext := next_ahead_of_stray (s := s) hf
    obtain ⟨rfl, rfl⟩ : .failed .notObject = x ∧ between t r.exhausted = r' := by simpa [hf] using ha
    exact ⟨by rw [hnext], ⟨wf_between .., h.exhausted⟩, by rw [hnext]⟩
  | piece p t =>
    have hnext := next_ahead_of_piece (s := s) hf
    obtain ⟨rfl, rfl⟩ : readPiece p = x ∧ between t r.exhausted = r' := by simpa [hf] using ha
    exact ⟨by rw [hnext], ⟨wf_between .., h.exhausted⟩, by rw [hnext]⟩

theorem agrees_end {t : List Char} (h : front r.held = .short t) (hs : script s = []) :
    Agrees (if t.isEmpty then .ended else .failed .unfinished, within t [] true, s)
      (r.ahead s).next := by
  refine ⟨?_, ⟨wf_within h .., fun _ => hs⟩, ?_⟩
  · cases t <;> simp [Ahead.next, ahead, hs, Ahead.ofChunks, h, Front.reading]
  · simp [Ahead.next, ahead, hs, Ahead.ofChunks, h, Front.rest]

theorem Call.agrees {out : Reading × Reader × σ} (hcall : r.Call s out) (h : r.Fits s) :
    Agrees out (r.ahead s).next := by
  -- a chunk moves text from what is to come to what is held: the text ahead stays the same
  induction hcall with
  | known ha => exact agrees_known h ha
  | exhausted ha hx =>
    obtain ⟨t, hf, rfl⟩ := advance_eq_none h.wf ha
    rw [exhausted_within] at hx
    simpa [hx] using agrees_end hf (h.exhausted hx)
  | @text _ s s' cs _ r ha hx hpull _ ih =>
    obtain ⟨t, hf, rfl⟩ := advance_eq_none h.wf ha
    have hs : script s = .text cs :: script s' := script_of_pull hpull
    have hnext : ((within t cs r.exhausted).ahead s').next = (r.ahead s).next :=
      next_ahead_within hf (by rw [hs]; rfl) (by rw [hs]; rfl)
    rw [← hnext]
    exact ih ⟨wf_within hf .., fun hr => absurd (hx.symm.trans hr) Bool.false_ne_true⟩
  | @ended _ s s' _ r ha _ hpull _ ih =>
    obtain ⟨t, hf, rfl⟩ := advance_eq_none h.wf ha
    obtain ⟨hs, hs'⟩ := script_of_pull hpull
    have hnext : ((within t [] true).ahead s').next = (r.ahead s).next :=
      next_ahead_within hf (by rw [hs, hs']; rfl) (by rw [hs, hs'])
    rw [← hnext]
    exact ih ⟨wf_within hf .., fun _ => hs'⟩
  | fault ha hx hpull =>
    obtain ⟨t, hf, rfl⟩ := advance_eq_none h.wf ha
    obtain ⟨⟨rest, hs⟩, hs'⟩ := script_of_pull hpull
    refine ⟨?_, ⟨wf_within hf .., fun _ => hs'⟩, ?_⟩
    · simp [Ahead.next, ahead, hs, Ahead.ofChunks, hf]
    · simp [Ahead.next, ahead, hs, hs', Ahead.ofChunks, hf]

theorem next_agrees (h : r.Fits s) : Agrees (r.next s) (r.ahead s).next :=
  (call_next r s).agrees h

end Reader

theorem Ahead.ofChunks_map_text (chunks : List (List Char)) :
    ofChunks (chunks.map .text) = ⟨chunks.flatten, none⟩ := by
  induction chunks with
  | nil => rfl
  | cons cs chunks ih => simp [ofChunks, ih]

theorem map_readings {r : Reader} {s : Chunks} (h : r.Fits s) (hf : (r.ahead s).fault = none)
    (n : Nat) : (readings n r s).map Prod.fst = frames n (r.ahead s).text := by
  induction n generalizing r s with
  | zero => rfl
  | succ n ih =>
    have hnext := Reader.next_agrees h
    have hahead : (r.ahead s).next =
        ((front (r.ahead s).text).reading, ⟨(front (r.ahead s).text).rest, none⟩) := by
      simp [Ahead.next, hf]
    rw [hahead] at hnext
    simp only [readings, List.map_cons, frames]
    rw [hnext.reading, ih hnext.fits (by rw [hnext.ahead]), hnext.ahead]

theorem Reader.fits_initial (chunks : List (List Char)) :
    Reader.initial.Fits (Chunks.ofList (chunks.map .text)) :=
  ⟨Reader.wf_initial, by simp [Reader.initial]⟩

theorem Reader.ahead_initial (chunks : List (List Char)) :
    Reader.initial.ahead (Chunks.ofList (chunks.map .text)) = ⟨chunks.flatten, none⟩ := by
  simp [Reader.ahead, Reader.held, Reader.initial, Scripted.script, Chunks.ofList, Ahead.ofChunks_map_text]

theorem readings_eq_frames (chunks : List (List Char)) (n : Nat) :
    (readings n .initial (.ofList (chunks.map .text))).map Prod.fst = frames n chunks.flatten := by
  have hahead := Reader.ahead_initial chunks
  rw [map_readings (Reader.fits_initial chunks) (by rw [hahead]), hahead]

end ClusterHealth.Stream

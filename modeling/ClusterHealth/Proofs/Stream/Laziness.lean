import ClusterHealth.Proofs.Admin.Opening
import Mathlib.Order.Bounds.Basic

/-!
How much of its source a reader asks for. Every question is asked with nothing left to scan, and with a
text received that is too little for a result; so no chunk is had before it is needed, and the end is
told once.
-/

namespace ClusterHealth.Stream

open Framing Scripted

def Pull.isChunk : Pull → Bool
  | .ended => false
  | _ => true

namespace Reader

variable {σ : Type} [TextSource σ]

inductive Asks : Reader → σ → List (Reader × Pull) → Reading × Reader × σ → Prop
  | known : r.advance = (some reading, r') → Asks r s [] (reading, r', s)
  | exhausted : r.advance = (none, r') → r'.exhausted = true →
      Asks r s [] (if r'.taken.isEmpty then .ended else .failed .unfinished, r', s)
  | text : r.advance = (none, r') → r'.exhausted = false → TextSource.pull s = (.text cs, s') →
      Asks (r'.feed cs) s' log out → Asks r s ((r', .text cs) :: log) out
  | ended : r.advance = (none, r') → r'.exhausted = false → TextSource.pull s = (.ended, s') →
      Asks { r' with exhausted := true } s' log out → Asks r s ((r', .ended) :: log) out
  | fault : r.advance = (none, r') → r'.exhausted = false → TextSource.pull s = (.failed f, s') →
      Asks r s [(r', .failed f)] (.failed (.ofFault f), r', s')

variable {r r' : Reader} {s : σ} {log : List (Reader × Pull)} {out : Reading × Reader × σ}

theorem Call.asks (h : r.Call s out) : ∃ log, r.Asks s log out := by
  induction h with
  | known ha => exact ⟨_, .known ha⟩
  | exhausted ha hx => exact ⟨_, .exhausted ha hx⟩
  | text ha hx hpull _ ih =>
    obtain ⟨log, hlog⟩ := ih
    exact ⟨_, .text ha hx hpull hlog⟩
  | ended ha hx hpull _ ih =>
    obtain ⟨log, hlog⟩ := ih
    exact ⟨_, .ended ha hx hpull hlog⟩
  | fault ha hx hpull => exact ⟨_, .fault ha hx hpull⟩

theorem pending_of_advance (h : r.advance = (none, r')) : r'.pending = [] := by
  simp only [advance] at h
  split at h
  · cases h
  · split at h
    · cases h
    · cases h
      rfl

namespace Asks

theorem pending (h : r.Asks s log out) : ∀ x ∈ log, x.1.pending = [] := by
  induction h with
  | known | exhausted => simp
  | text ha _ _ _ ih | ended ha _ _ _ ih => simpa [pending_of_advance ha] using ih
  | fault ha => simp [pending_of_advance ha]

theorem exhausted_out (h : r.Asks s log out) (hr : r.exhausted = true) :
    log = [] ∧ out.2.1.exhausted = true := by
  cases h with
  | known ha => exact ⟨rfl, (exhausted_of_advance ha).trans hr⟩
  | exhausted _ hx => exact ⟨rfl, hx⟩
  | text ha hx | ended ha hx | fault ha hx =>
    rw [exhausted_of_advance ha, hr] at hx
    cases hx

theorem ended_out {before behind : List (Reader × Pull)} {x : Reader × Pull}
    (h : r.Asks s (before ++ x :: behind) out) (hx : x.2 = .ended) :
    behind = [] ∧ out.2.1.exhausted = true := by
  generalize hlog : before ++ x :: behind = log at h
  induction h generalizing before with
  | known | exhausted => simp at hlog
  | text _ _ _ _ ih =>
    cases before with
    | nil =>
      obtain ⟨rfl, -⟩ := List.cons.inj hlog
      cases hx
    | cons y before => exact ih (List.cons.inj hlog).2
  | ended _ _ _ hasks ih =>
    cases before with
    | nil =>
      obtain ⟨-, rfl⟩ := List.cons.inj hlog
      exact hasks.exhausted_out rfl
    | cons y before => exact ih (List.cons.inj hlog).2
  | fault =>
    cases before with
    | nil =>
      obtain ⟨rfl, -⟩ := List.cons.inj hlog
      cases hx
    | cons y before => simp at hlog

end Asks

end Reader

namespace Framing

theorem length_rest_le_of_stray {t u x : List Char} (ht : front t = .short u) {v : List Char}
    (h : front (t ++ v) = .stray x) : x.length ≤ v.length := by
  have happ : Json.skipBlanks (t ++ v) =
      if (Json.skipBlanks t).isEmpty then Json.skipBlanks v else Json.skipBlanks t ++ v := by
    simp [Json.skipBlanks, List.dropWhile_append]
  obtain ⟨hnil, -⟩ | ⟨c, w, hw, ⟨-, hf⟩ | ⟨ho, -, -⟩ | ⟨-, _, -, hf⟩⟩ := front_cases t
  · obtain ⟨-, hf⟩ | ⟨c, w, hw, ⟨-, hf⟩ | ⟨-, -, hf⟩ | ⟨-, _, -, hf⟩⟩ := front_cases (t ++ v)
    · simp [hf] at h
    · obtain rfl : c :: w = x := by simpa [hf] using h
      rw [hnil] at happ
      rw [← hw, happ]
      exact (List.dropWhile_suffix _).length_le
    · simp [hf] at h
    · simp [hf] at h
  · simp [hf] at ht
  · simp [front, happ, hw, ho] at h
    split at h <;> cases h
  · simp [hf] at ht

theorem suffix_rest (t : List Char) : (front t).rest <:+ t := by
  have hblanks : Json.skipBlanks t <:+ t := List.dropWhile_suffix _
  obtain ⟨-, hf⟩ | ⟨c, w, hw, ⟨-, hf⟩ | ⟨-, -, hf⟩ | ⟨-, p, -, hf⟩⟩ := front_cases t
  · simp [hf, Front.rest]
  · simpa [hf, Front.rest, hw] using hblanks
  · simpa [hf, Front.rest, hw] using hblanks
  · rw [hf, Front.rest]
    exact (List.drop_suffix ..).trans (hw ▸ hblanks)

def restAfter (t : List Char) : Nat → List Char
  | 0 => t
  | n + 1 => (front (restAfter t n)).rest

theorem suffix_restAfter (t : List Char) (n : Nat) : restAfter t n <:+ t := by
  induction n with
  | zero => exact List.suffix_rfl
  | succ n ih => exact (suffix_rest _).trans ih

/-- The place in a text of `length` characters of the one that settles a call. The end settles it where
there is none. -/
def place (length : Nat) : Front → Nat
  | .piece _ rest => length - rest.length - 1
  | .stray t => length - t.length
  | .short _ => length

theorem place_front_rest (t : List Char) (length : Nat) :
    place length (front t) ≤ place length (front (front t).rest) := by
  by_cases hf : ∃ p rest, front t = .piece p rest
  · obtain ⟨p, rest, hf⟩ := hf
    have hle := (suffix_rest rest).length_le
    rw [hf, Front.rest]
    cases hr : front rest with
    | piece q left =>
      have hlt := length_rest_lt hr
      simp only [place]
      omega
    | stray u =>
      rw [hr, Front.rest] at hle
      simp only [place]
      omega
    | short u =>
      simp only [place]
      omega
  · rw [front_rest fun p rest hp => hf ⟨p, rest, hp⟩]

theorem exists_bracket {text t p rest : List Char} (ht : t <:+ text) (h : front t = .piece p rest) :
    ∃ lead b, text = lead ++ b :: rest ∧ Scan.isClosing b ∧
      place text.length (front t) = lead.length := by
  obtain ⟨v, rfl⟩ := ht
  obtain ⟨w, -, happ⟩ := eq_append_of_front h
  obtain ⟨c, u, -, ho, hp, -⟩ := front_eq_piece h
  obtain ⟨q, b, hq, hb⟩ := piece?_eq_append ho hp
  have htext : v ++ t = (v ++ w ++ q) ++ b :: rest := by simp [happ, hq]
  refine ⟨_, b, htext, hb, ?_⟩
  rw [h, htext]
  simp only [place, List.length_append, List.length_cons]
  omega

theorem exists_character {text t x : List Char} (ht : t <:+ text) (h : front t = .stray x) :
    ∃ lead, text = lead ++ x ∧ place text.length (front t) = lead.length := by
  have hx : x <:+ text := by
    have hrest := (suffix_rest t).trans ht
    rwa [h] at hrest
  obtain ⟨lead, rfl⟩ := hx
  refine ⟨lead, rfl, ?_⟩
  simp only [h, place, List.length_append]
  omega

theorem front_after_stray {t x : List Char} {n : Nat} (h : front (restAfter t n) = .stray x) (k : Nat) :
    front (restAfter t (n + k)) = .stray x := by
  induction k with
  | zero => exact h
  | succ k ih => rw [← Nat.add_assoc, restAfter, front_rest (by simp [ih]), ih]

end Framing

namespace Chunks

def received (chunks : List Chunk) (n : Nat) : List Char := (Ahead.ofChunks (chunks.take n)).text

@[simp] theorem received_zero (chunks : List Chunk) : received chunks 0 = [] := by
  simp [received, Ahead.ofChunks]

@[simp] theorem received_nil (n : Nat) : received [] n = [] := by
  simp [received, Ahead.ofChunks]

@[simp] theorem received_text (cs : List Char) (chunks : List Chunk) (n : Nat) :
    received (.text cs :: chunks) (n + 1) = cs ++ received chunks n := by
  simp [received, Ahead.ofChunks]

@[simp] theorem received_fault (f : Fault) (chunks : List Chunk) (n : Nat) :
    received (.fault f :: chunks) n = [] := by
  cases n <;> simp [received, Ahead.ofChunks]

theorem received_prefix (chunks : List Chunk) (n : Nat) :
    received chunks n <+: (Ahead.ofChunks chunks).text := by
  induction chunks generalizing n with
  | nil => simp
  | cons c chunks ih =>
    cases c with
    | fault f => simp
    | text cs =>
      cases n with
      | zero => simp
      | succ n => simpa [Ahead.ofChunks] using ih n

theorem received_of_length_le (chunks : List Chunk) {n : Nat} (h : chunks.length ≤ n) :
    received chunks n = (Ahead.ofChunks chunks).text := by
  rw [received, List.take_of_length_le h]

def Reads (chunks : List Chunk) (s : Chunks) : Prop :=
  ∀ n, received chunks (s.pulled + n) = received chunks s.pulled ++ received s.left n

variable {chunks : List Chunk} {s s' : Chunks}

theorem reads_ofList (chunks : List Chunk) : Reads chunks (ofList chunks) := by
  simp [Reads, ofList]

theorem Reads.text (h : Reads chunks s) :
    (Ahead.ofChunks chunks).text = received chunks s.pulled ++ (Ahead.ofChunks s.left).text := by
  have hall := h (chunks.length + s.left.length)
  rwa [received_of_length_le chunks (by omega), received_of_length_le s.left (by omega)] at hall

theorem of_pull {p : Pull} (h : TextSource.pull s = (p, s')) :
    match p with
    | .text cs => s.left = .text cs :: s'.left ∧ s'.pulled = s.pulled + 1
    | .ended => s.left = [] ∧ s' = s
    | .failed f => (∃ rest, s.left = .fault f :: rest) ∧ s'.left = [] ∧ s'.pulled = s.pulled + 1 := by
  obtain ⟨left, pulled⟩ := s
  cases left with
  | nil =>
    cases h
    exact ⟨rfl, rfl⟩
  | cons c left =>
    cases c with
    | text cs =>
      cases h
      exact ⟨rfl, rfl⟩
    | fault f =>
      cases h
      exact ⟨⟨left, rfl⟩, rfl, rfl⟩

theorem Reads.pull {p : Pull} (h : Reads chunks s) (hp : TextSource.pull s = (p, s')) :
    Reads chunks s' ∧ s.pulled ≤ s'.pulled := by
  have hs := of_pull hp
  have hone := h 1
  cases p with
  | ended =>
    obtain ⟨-, rfl⟩ := hs
    exact ⟨h, Nat.le_refl _⟩
  | text cs =>
    obtain ⟨hleft, hpulled⟩ := hs
    refine ⟨fun n => ?_, by omega⟩
    have hmore := h (n + 1)
    rw [hleft, received_text] at hone hmore
    rw [hpulled, hone, Nat.add_assoc, Nat.add_comm 1, hmore]
    simp
  | failed f =>
    obtain ⟨⟨rest, hleft⟩, hnil, hpulled⟩ := hs
    refine ⟨fun n => ?_, by omega⟩
    have hmore := h (n + 1)
    rw [hleft, received_fault] at hone hmore
    rw [hpulled, hone, Nat.add_assoc, Nat.add_comm 1, hmore, hnil]
    simp

end Chunks

namespace Reader

section Call

variable {σ : Type} [TextSource σ] [Scripted σ] {r : Reader} {s : σ} {out : Reading × Reader × σ}

theorem front_ahead_of_text_eq_nil {t : List Char} (h : front r.held = .short t)
    (hs : (Ahead.ofChunks (script s)).text = []) : front (r.ahead s).text = .short t := by
  simpa [ahead, hs] using h

theorem front_ahead_within {s' : σ} {t cs : List Char} {exhausted : Bool}
    (h : front r.held = .short t) (hs : script s = .text cs :: script s') :
    front ((within t cs exhausted).ahead s').text = front (r.ahead s).text := by
  simp only [ahead, hs, Ahead.ofChunks, held_within]
  rw [List.append_assoc, front_append r.held, h]

theorem Call.held_of_stray {x : List Char} (hcall : r.Call s out) (h : r.Fits s)
    (hx : front (r.ahead s).text = .stray x) : out.2.1.held ≠ [] := by
  induction hcall with
  | @known _ _ r _ ha =>
    rw [advance_eq h.wf] at ha
    obtain ⟨-, hf⟩ | ⟨c, u, -, ⟨-, hf⟩ | ⟨-, -, hf⟩ | ⟨-, p, -, hf⟩⟩ := front_cases r.held
    · simp [hf] at ha
    · rw [hf] at ha
      cases ha
      simp
    · simp [hf] at ha
    · rw [ahead, front_append, hf] at hx
      cases hx
  | exhausted ha hr =>
    obtain ⟨t, hf, rfl⟩ := advance_eq_none h.wf ha
    rw [front_ahead_of_text_eq_nil hf (by rw [h.exhausted hr]; rfl)] at hx
    cases hx
  | text ha hr hpull _ ih =>
    obtain ⟨t, hf, rfl⟩ := advance_eq_none h.wf ha
    have hs := script_of_pull hpull
    exact ih ⟨wf_within hf .., fun hr' => absurd (hr.symm.trans hr') Bool.false_ne_true⟩
      ((front_ahead_within hf hs).trans hx)
  | ended ha _ hpull _ ih =>
    obtain ⟨t, hf, rfl⟩ := advance_eq_none h.wf ha
    rw [front_ahead_of_text_eq_nil hf (by rw [(script_of_pull hpull).1]; rfl)] at hx
    cases hx
  | fault ha _ hpull =>
    obtain ⟨t, hf, rfl⟩ := advance_eq_none h.wf ha
    obtain ⟨⟨rest, hs⟩, -⟩ := script_of_pull hpull
    rw [front_ahead_of_text_eq_nil hf (by rw [hs]; rfl)] at hx
    cases hx

end Call

section Chunks

open Chunks (Reads received)

variable {chunks : List Chunk} {r : Reader} {s : Chunks} {out : Reading × Reader × Chunks}

theorem Call.reads (hcall : r.Call s out) (h : Reads chunks s) :
    Reads chunks out.2.2 ∧ s.pulled ≤ out.2.2.pulled := by
  induction hcall with
  | known | exhausted => exact ⟨h, Nat.le_refl _⟩
  | text _ _ hpull _ ih | ended _ _ hpull _ ih =>
    obtain ⟨hreads, hle⟩ := h.pull hpull
    exact ⟨(ih hreads).1, hle.trans (ih hreads).2⟩
  | fault _ _ hpull => exact h.pull hpull

theorem Call.short_of_lt (hcall : r.Call s out) (h : r.Wf) {n : Nat}
    (hn : s.pulled + n < out.2.2.pulled) : ∃ t, front (r.held ++ received s.left n) = .short t := by
  induction hcall generalizing n with
  | known | exhausted => exact absurd hn (Nat.not_lt.2 (Nat.le_add_right ..))
  | text ha _ hpull _ ih =>
    obtain ⟨t, hf, rfl⟩ := advance_eq_none h ha
    obtain ⟨hleft, hpulled⟩ := Chunks.of_pull hpull
    cases n with
    | zero => exact ⟨t, by simpa using hf⟩
    | succ n =>
      obtain ⟨u, hu⟩ := ih (wf_within hf ..) (n := n) (by omega)
      refine ⟨u, ?_⟩
      rw [show (within t [] _).feed _ = within t _ _ from rfl, held_within, List.append_assoc] at hu
      rw [hleft, Chunks.received_text, front_append, hf]
      exact hu
  | ended ha _ hpull _ ih =>
    obtain ⟨t, hf, rfl⟩ := advance_eq_none h ha
    obtain ⟨hleft, rfl⟩ := Chunks.of_pull hpull
    obtain ⟨u, hu⟩ := ih (wf_within hf [] true) hn
    exact ⟨t, by simpa [hleft] using hf⟩
  | fault ha _ hpull =>
    obtain ⟨t, hf, rfl⟩ := advance_eq_none h ha
    obtain ⟨⟨rest, hleft⟩, -⟩ := Chunks.of_pull hpull
    exact ⟨t, by simpa [hleft] using hf⟩

/-- Between calls: of the chunks asked for, none but the last may have settled the next call. -/
structure Paced (chunks : List Chunk) (n : Nat) (r : Reader) (s : Chunks) : Prop where
  fits : r.Fits s
  reads : Reads chunks s
  text : (r.ahead s).text = restAfter (Ahead.ofChunks chunks).text n
  needed : ∀ m < s.pulled, (received chunks m).length ≤
    place (Ahead.ofChunks chunks).text.length (front (restAfter (Ahead.ofChunks chunks).text n))

theorem paced_initial (chunks : List Chunk) : Paced chunks 0 .initial (.ofList chunks) := by
  refine ⟨⟨wf_initial, by simp [initial]⟩, Chunks.reads_ofList chunks, ?_, by simp [Chunks.ofList]⟩
  simp [ahead, held, initial, Scripted.script, Chunks.ofList, restAfter]

variable {n : Nat}

theorem Call.needed (hcall : r.Call s out) (h : Paced chunks n r s) :
    ∀ m < out.2.2.pulled, (received chunks m).length ≤
      place (Ahead.ofChunks chunks).text.length (front (restAfter (Ahead.ofChunks chunks).text n)) := by
  intro m hm
  by_cases hlt : m < s.pulled
  · exact h.needed m hlt
  obtain ⟨k, rfl⟩ : ∃ k, m = s.pulled + k := ⟨m - s.pulled, by omega⟩
  obtain ⟨u, hu⟩ := hcall.short_of_lt h.fits.wf hm
  -- `v` is the text that was still missing when the chunk was asked for
  obtain ⟨v, hv⟩ := Chunks.received_prefix chunks (s.pulled + k)
  have hleft : (Ahead.ofChunks s.left).text = received s.left k ++ v := by
    rw [h.reads.text, h.reads k, List.append_assoc] at hv
    exact (List.append_cancel_left hv).symm
  have hrest : restAfter (Ahead.ofChunks chunks).text n = r.held ++ received s.left k ++ v := by
    rw [← h.text, List.append_assoc, ← hleft]
    rfl
  have hlength := congrArg List.length hv
  rw [List.length_append] at hlength
  cases hf : front (restAfter (Ahead.ofChunks chunks).text n) with
  | short t =>
    simp only [place]
    omega
  | piece p rest =>
    rw [hrest] at hf
    have hrest := length_rest_lt_of_short hu hf
    simp only [place]
    omega
  | stray t =>
    rw [hrest] at hf
    have hrest := length_rest_le_of_stray hu hf
    simp only [place]
    omega

theorem Call.paced (hcall : r.Call s out) (h : Paced chunks n r s) :
    Paced chunks (n + 1) out.2.1 out.2.2 := by
  have hagrees := hcall.agrees h.fits
  refine ⟨hagrees.fits, (hcall.reads h.reads).1, ?_, fun m hm => ?_⟩
  · rw [hagrees.ahead, Ahead.text_next, h.text, restAfter]
  · exact (hcall.needed h m hm).trans (place_front_rest ..)

theorem Call.place_lt (hcall : r.Call s out) (h : Paced chunks n r s)
    (hf : ∀ t, front (restAfter (Ahead.ofChunks chunks).text n) ≠ .short t) :
    place (Ahead.ofChunks chunks).text.length (front (restAfter (Ahead.ofChunks chunks).text n)) <
      (received chunks out.2.2.pulled).length := by
  have hafter := hcall.paced h
  have hlength := congrArg List.length hafter.reads.text
  have hrest := congrArg List.length hafter.text
  have hle := (suffix_restAfter (Ahead.ofChunks chunks).text n).length_le
  simp only [ahead, List.length_append, restAfter, Scripted.script] at hlength hrest
  cases hx : front (restAfter (Ahead.ofChunks chunks).text n) with
  | short t => exact absurd hx (hf t)
  | piece p rest =>
    have hlt := length_rest_lt hx
    rw [hx, Front.rest] at hrest
    simp only [place]
    omega
  | stray t =>
    have hheld := List.length_pos_iff.2 (hcall.held_of_stray h.fits (h.text ▸ hx))
    have hlt := (suffix_rest (restAfter (Ahead.ofChunks chunks).text n)).length_le
    rw [hx, Front.rest] at hrest hlt
    simp only [place]
    omega

theorem Call.isLeast (hcall : r.Call s out) (h : Paced chunks n r s)
    (hf : ∀ t, front (restAfter (Ahead.ofChunks chunks).text n) ≠ .short t) :
    IsLeast {m | place (Ahead.ofChunks chunks).text.length
      (front (restAfter (Ahead.ofChunks chunks).text n)) < (received chunks m).length}
      out.2.2.pulled := by
  refine ⟨hcall.place_lt h hf, fun m hm => ?_⟩
  by_contra hlt
  exact absurd (hcall.needed h m (Nat.lt_of_not_le hlt)) (Nat.not_le.2 hm)

theorem Asks.pulled {log : List (Reader × Pull)} (h : r.Asks s log out) :
    out.2.2.pulled = s.pulled + log.countP (·.2.isChunk) := by
  induction h with
  | known | exhausted => rfl
  | text _ _ hpull _ ih =>
    rw [ih, (Chunks.of_pull hpull).2]
    simp [Pull.isChunk]
    omega
  | ended _ _ hpull _ ih =>
    rw [ih, (Chunks.of_pull hpull).2]
    simp [Pull.isChunk]
  | fault _ _ hpull => simp [Pull.isChunk, (Chunks.of_pull hpull).2.2]

end Chunks

end Reader

open Reader Chunks

def after (chunks : List Chunk) : Nat → Reader × Chunks
  | 0 => (.initial, .ofList chunks)
  | n + 1 => ((after chunks n).1.next (after chunks n).2).2

theorem paced_after (chunks : List Chunk) (n : Nat) :
    Paced chunks n (after chunks n).1 (after chunks n).2 := by
  induction n with
  | zero => exact paced_initial chunks
  | succ n ih => exact (call_next ..).paced ih

theorem exhausted_after {chunks : List Chunk} {n : Nat} (h : (after chunks n).1.exhausted = true)
    (k : Nat) : (after chunks (n + k)).1.exhausted = true := by
  induction k with
  | zero => exact h
  | succ k ih =>
    obtain ⟨log, hlog⟩ := (call_next (after chunks (n + k)).1 (after chunks (n + k)).2).asks
    exact (hlog.exhausted_out ih).2

structure Lazy (chunks : List Chunk) (n : Nat) (r : Reader) (s : Chunks)
    (out : Reading × Reader × Chunks) : Prop where
  document : ∀ d, out.1 = .document d → Opens (restAfter (Ahead.ofChunks chunks).text n) d
  piece : ∀ p rest, front (restAfter (Ahead.ofChunks chunks).text n) = .piece p rest →
    out.1 = verdict (Json.decode (String.ofList p)) ∧
      ∃ lead b, (Ahead.ofChunks chunks).text = lead ++ b :: rest ∧ Scan.isClosing b ∧
        IsLeast {m | lead.length < (received chunks m).length} out.2.2.pulled ∧
        (lead.length < (received chunks s.pulled).length → out.2.2.pulled = s.pulled)
  stray : ∀ c rest, front (restAfter (Ahead.ofChunks chunks).text n) = .stray (c :: rest) →
    out.1 = .failed .notObject ∧
      ∃ lead, (Ahead.ofChunks chunks).text = lead ++ c :: rest ∧
        IsLeast {m | lead.length < (received chunks m).length} out.2.2.pulled ∧
        ∀ k, (after chunks (n + 1 + k)).2.pulled = out.2.2.pulled
  asked : ∃ log, r.Asks s log out ∧ out.2.2.pulled = s.pulled + log.countP (·.2.isChunk) ∧
    ∀ x ∈ log, x.1.pending = []
  ended : ∀ before x behind, r.Asks s (before ++ x :: behind) out → x.2 = .ended → behind = [] ∧
    ∀ k log out', (after chunks (n + 1 + k)).1.Asks (after chunks (n + 1 + k)).2 log out' → log = []

theorem lazy_next (chunks : List Chunk) (n : Nat) :
    Lazy chunks n (after chunks n).1 (after chunks n).2
      ((after chunks n).1.next (after chunks n).2) := by
  have hpaced := paced_after chunks n
  have hcall := call_next (after chunks n).1 (after chunks n).2
  have hagrees := hcall.agrees hpaced.fits
  have hsuffix := suffix_restAfter (Ahead.ofChunks chunks).text n
  refine ⟨fun d hd => ?_, fun p rest hf => ?_, fun c rest hf => ?_, ?_, fun before x behind hlog hend => ?_⟩
  · rw [hagrees.reading, Ahead.next_eq_document_iff, hpaced.text] at hd
    exact hd
  · obtain ⟨lead, b, htext, hb, hplace⟩ := exists_bracket hsuffix hf
    have hleast := hcall.isLeast hpaced (by simp [hf])
    rw [hplace] at hleast
    refine ⟨?_, lead, b, htext, hb, hleast, fun hthere => ?_⟩
    · rw [hagrees.reading, Ahead.next_of_piece (hpaced.text ▸ hf)]
    · exact Nat.le_antisymm (hleast.2 hthere) (hcall.reads hpaced.reads).2
  · obtain ⟨lead, htext, hplace⟩ := exists_character hsuffix hf
    -- the character stays where it is, so each later call meets it at the same place
    have hleast (k : Nat) := (call_next ..).isLeast (paced_after chunks (n + k))
      (by simp [front_after_stray hf k])
    simp only [front_after_stray hf, ← hf, hplace] at hleast
    refine ⟨?_, lead, htext, hleast 0, fun k => ?_⟩
    · rw [hagrees.reading, Ahead.next_of_stray (hpaced.text ▸ hf)]
    · rw [Nat.add_right_comm]
      exact (hleast k).unique (hleast 0)
  · obtain ⟨log, hlog⟩ := hcall.asks
    exact ⟨log, hlog, hlog.pulled, hlog.pending⟩
  · obtain ⟨hlast, hx⟩ := hlog.ended_out hend
    have hx' : (after chunks (n + 1)).1.exhausted = true := hx
    exact ⟨hlast, fun k log out' h => (h.exhausted_out (exhausted_after hx' k)).1⟩

end ClusterHealth.Stream

import ClusterHealth.Proofs.Stream.Leaps

/-!
A reader between two calls. Here it keeps what it has scanned in the portions in which that came, and
scans by leaps; call by call it does what the reader does that keeps the text alone. Whatever a call
comes to, a result or an error, the depth and the flags are those of the text in the portions, and what
was received and not used up is still there.
-/

namespace ClusterHealth.Stream

structure Recorded (σ : Type) where
  source : σ
  given : List Char

namespace Recorded

variable {σ : Type} [TextSource σ]

def pull (s : Recorded σ) : Pull × Recorded σ :=
  match TextSource.pull s.source with
  | (.text cs, source) => (.text cs, ⟨source, s.given ++ cs⟩)
  | (p, source) => (p, ⟨source, s.given⟩)

instance : TextSource (Recorded σ) := ⟨pull, fun s => TextSource.remaining s.source⟩

theorem pull_eq (s : Recorded σ) :
    TextSource.pull s =
      match TextSource.pull s.source with
      | (.text cs, source) => (.text cs, ⟨source, s.given ++ cs⟩)
      | (p, source) => (p, ⟨source, s.given⟩) := rfl

end Recorded

namespace Reader

variable {r r' : Reader} {s : Scan} {out rest : List Char}

theorem advance_of_startsBadly (hr : r.skip = r') (hb : r'.startsBadly = true) :
    r.advance = (some (.failed .notObject), r') := by
  simp only [advance, hr, hb, if_true]

theorem advance_of_cut_some (hr : r.skip = r') (hb : r'.startsBadly = false)
    (hcut : r'.scan.cut r'.taken r'.pending = (s, out, some rest)) :
    r.advance = (some (readPiece out.reverse), ⟨[], .initial, rest, r'.exhausted⟩) := by
  simp only [advance, hr, hb, hcut, Bool.false_eq_true, if_false]

theorem advance_of_cut_none (hr : r.skip = r') (hb : r'.startsBadly = false)
    (hcut : r'.scan.cut r'.taken r'.pending = (s, out, none)) :
    r.advance = (none, ⟨out, s, [], r'.exhausted⟩) := by
  simp only [advance, hr, hb, hcut, Bool.false_eq_true, if_false]

end Reader

def inTurn (next : ρ → σ → α × ρ × σ) : Nat → ρ → σ → List α × ρ × σ
  | 0, r, s => ([], r, s)
  | n + 1, r, s =>
    let (a, r, s) := next r s
    let (as, r, s) := inTurn next n r s
    (a :: as, r, s)

theorem inTurn_succ (next : ρ → σ → α × ρ × σ) (n : Nat) (r : ρ) (s : σ) :
    inTurn next (n + 1) r s =
      ((next r s).1 :: (inTurn next n (next r s).2.1 (next r s).2.2).1,
        (inTurn next n (next r s).2.1 (next r s).2.2).2) := rfl

/-- A reader with its document in portions. Those are empty between documents. -/
structure Gatherer where
  portions : List (List Char)
  tally : Tally
  pending : List Char
  exhausted : Bool

namespace Gatherer

inductive Outcome
  | piece (p : List Char)
  | stray
  | ended
  | unfinished
  | fault (f : Fault)

namespace Outcome

def reading : Outcome → Reading
  | .piece p => readPiece p
  | .stray => .failed .notObject
  | .ended => .ended
  | .unfinished => .failed .unfinished
  | .fault f => .failed (.ofFault f)

def spent : Outcome → List Char
  | .piece p => p
  | _ => []

end Outcome

def initial : Gatherer := ⟨[], .initial, [], false⟩

def held (g : Gatherer) : List Char := g.portions.flatten ++ g.pending

def skip (g : Gatherer) : Gatherer :=
  if g.portions.isEmpty then { g with pending := Json.skipBlanks g.pending } else g

def startsBadly (g : Gatherer) : Bool :=
  g.portions.isEmpty && (g.pending.head?.any fun c => !Scan.isOpening c)

def gather (g : Gatherer) : Option Outcome × Gatherer :=
  if g.pending.isEmpty then (none, g)
  else
    match g.tally.scan g.pending with
    | (x, none) => (none, { g with portions := g.portions ++ [g.pending], tally := x, pending := [] })
    | (x, some rest) =>
      let last := g.pending.take (g.pending.length - rest.length)
      (some (.piece (g.portions ++ [last]).flatten),
        { g with portions := [], tally := x, pending := rest })

def advance (g : Gatherer) : Option Outcome × Gatherer :=
  let g := g.skip
  if g.startsBadly then (some .stray, g) else g.gather

def feed (g : Gatherer) (cs : List Char) : Gatherer := { g with pending := g.pending ++ cs }

@[simp] theorem held_feed (g : Gatherer) (cs : List Char) : (g.feed cs).held = g.held ++ cs := by
  simp [held, feed]

def nextWithin [TextSource σ] : Nat → Gatherer → σ → Outcome × Gatherer × σ
  | 0, g, source => (.ended, g, source)
  | steps + 1, g, source =>
    match g.advance with
    | (some outcome, g) => (outcome, g, source)
    | (none, g) =>
      if g.exhausted then (if g.portions.isEmpty then .ended else .unfinished, g, source)
      else
        match TextSource.pull source with
        | (.text cs, source) => nextWithin steps (g.feed cs) source
        | (.ended, source) => nextWithin steps { g with exhausted := true } source
        | (.failed f, source) => (.fault f, g, source)

def next [TextSource σ] (g : Gatherer) (source : σ) : Outcome × Gatherer × σ :=
  nextWithin (TextSource.remaining source + 2) g source

def toReader (g : Gatherer) : Reader :=
  ⟨g.portions.flatten.reverse, g.tally.toScan, g.pending, g.exhausted⟩

/-- What holds of the portions and of what is known of them, whatever the last call came to. -/
structure Sound (g : Gatherer) : Prop where
  nonneg : 0 ≤ g.tally.depth
  eq_nil_iff : g.portions = [] ↔ g.tally.depth = 0
  outside : g.tally.depth = 0 → g.tally.inString = false ∧ g.tally.escaped = false
  escaped : g.tally.escaped = true → g.tally.inString = true
  portions : ∀ p ∈ g.portions, p ≠ []
  opens : ∀ c ∈ g.portions.flatten.head?, Scan.isOpening c = true
  tally : g.tally = Tally.initial.run g.portions.flatten

inductive Spent : List Outcome → List Char → Prop
  | nil : Spent [] []
  | cons : (∀ c ∈ w, Json.isBlank c) → Spent os t → Spent (o :: os) (w ++ o.spent ++ t)

variable {g g' : Gatherer} {portions : List (List Char)} {pending : List Char} {exhausted : Bool}

namespace Sound

theorem congr (h : g.Sound) (hp : g'.portions = g.portions) (ht : g'.tally = g.tally) :
    g'.Sound := by
  obtain ⟨portions, tally, pending, exhausted⟩ := g'
  cases hp
  cases ht
  exact ⟨h.1, h.2, h.3, h.4, h.5, h.6, h.7⟩

theorem between : (Gatherer.mk [] .initial pending exhausted).Sound := by
  constructor <;> simp [Tally.initial, Tally.run]

theorem within (hd : 0 < (Tally.initial.run portions.flatten).depth) (hp : ∀ p ∈ portions, p ≠ [])
    (ho : ∀ c ∈ portions.flatten.head?, Scan.isOpening c = true) :
    (Gatherer.mk portions (Tally.initial.run portions.flatten) pending exhausted).Sound where
  nonneg := Int.le_of_lt hd
  eq_nil_iff := by
    refine ⟨?_, fun hz => absurd hz (Int.ne_of_gt hd)⟩
    rintro rfl
    exact absurd hd (by decide)
  outside hz := absurd hz (Int.ne_of_gt hd)
  escaped := Tally.wf_run (by simp [Tally.initial]) _
  portions := hp
  opens := ho
  tally := rfl

theorem isEmpty_taken (h : g.Sound) : g.toReader.taken.isEmpty = g.portions.isEmpty := by
  cases hp : g.portions with
  | nil => simp [toReader, hp]
  | cons p ps =>
    have hne : p ≠ [] := h.portions p (by simp [hp])
    simp [toReader, hp, hne]

theorem tally_of_nil (h : g.Sound) (hp : g.portions = []) : g.tally = .initial := by
  rw [h.tally, hp]
  rfl

theorem depth_pos (h : g.Sound) (hp : g.portions ≠ []) : 0 < g.tally.depth :=
  Int.lt_iff_le_and_ne.2 ⟨h.nonneg, fun hz => hp (h.eq_nil_iff.2 hz.symm)⟩

theorem ofScan_toScan (h : g.Sound) : .ofScan g.tally.toScan = g.tally :=
  Tally.ofScan_toScan h.nonneg

theorem startsBadly_toReader (h : g.Sound) : g.toReader.startsBadly = g.startsBadly := by
  rw [Reader.startsBadly, h.isEmpty_taken]
  rfl

theorem opens_held (h : g.Sound) (hb : g.startsBadly = false) :
    ∀ c ∈ g.held.head?, Scan.isOpening c = true := by
  cases hp : g.portions with
  | nil =>
    have hany : (g.pending.head?.any fun c => !Scan.isOpening c) = false := by
      simpa [startsBadly, hp] using hb
    simpa [held, hp] using (Option.any_eq_false ..).1 hany
  | cons p ps =>
    obtain ⟨d, q, rfl⟩ := List.exists_cons_of_ne_nil (h.portions p (by simp [hp]))
    simpa [held, hp] using h.opens

theorem begins (h : g.Sound) (hb : g.startsBadly = false) :
    g.tally.toScan.Begins g.pending := by
  cases hp : g.portions with
  | nil =>
    refine .inr ⟨by rw [h.tally_of_nil hp]; rfl, ?_⟩
    simpa [held, hp] using h.opens_held hb
  | cons p ps =>
    have hd := h.depth_pos (by simp [hp])
    exact .inl (by simp only [Tally.toScan]; omega)

theorem gathered {s' : Scan} (h : g.Sound) (hb : g.startsBadly = false) (hne : g.pending ≠ [])
    (hrun : .ofScan s' = g.tally.run g.pending) (hd : 0 < s'.depth) :
    (Gatherer.mk (g.portions ++ [g.pending]) (.ofScan s') [] g.exhausted).Sound := by
  have htally : .ofScan s' = Tally.initial.run (g.portions ++ [g.pending]).flatten := by
    simp [hrun, Tally.run_append, ← h.tally]
  have hd' : 0 < (Tally.ofScan s').depth := by
    simpa [Tally.ofScan] using hd
  rw [htally]
  apply within (htally ▸ hd')
  · simpa [or_imp, forall_and, hne] using h.portions
  · simpa [held] using h.opens_held hb

theorem gather_cases (h : g.Sound) (hb : g.startsBadly = false) (out : List Char) :
    (g.pending = [] ∧ g.gather = (none, g)) ∨
    (∃ s', g.pending ≠ [] ∧
      g.tally.toScan.cut out g.pending = (s', g.pending.reverse ++ out, none) ∧
      .ofScan s' = g.tally.run g.pending ∧ 0 < s'.depth ∧
      g.gather = (none, ⟨g.portions ++ [g.pending], .ofScan s', [], g.exhausted⟩)) ∨
    ∃ p rest, g.pending = p ++ rest ∧
      g.tally.toScan.cut out g.pending = (.initial, p.reverse ++ out, some rest) ∧
      g.gather = (some (.piece (g.portions.flatten ++ p)), ⟨[], .initial, rest, g.exhausted⟩) := by
  by_cases hne : g.pending = []
  · exact .inl ⟨hne, by simp [gather, hne]⟩
  · refine .inr ?_
    obtain ⟨s', hcut, hscan, hrun, hd⟩ | ⟨p, rest, hp, hcut, hscan⟩ :=
      Tally.scan_cases hne (h.begins hb) out
    · rw [h.ofScan_toScan] at hscan hrun
      exact .inl ⟨s', hne, hcut, hrun, hd, by simp [gather, hne, hscan]⟩
    · rw [h.ofScan_toScan] at hscan
      have hlast : g.pending.take (g.pending.length - rest.length) = p := by
        simp [hp]
      exact .inr ⟨p, rest, hp, hcut, by simp [gather, hne, hscan, hlast]⟩

theorem skip (h : g.Sound) : g.skip.Sound := by
  unfold Gatherer.skip
  split
  · exact h.congr rfl rfl
  · exact h

theorem toReader_skip (h : g.Sound) : g.toReader.skip = g.skip.toReader := by
  unfold Reader.skip Gatherer.skip
  rw [h.isEmpty_taken]
  split <;> rfl

end Sound

theorem held_skip (g : Gatherer) : ∃ w, (∀ c ∈ w, Json.isBlank c) ∧ g.held = w ++ g.skip.held := by
  unfold skip
  split
  · next hp =>
    refine ⟨g.pending.takeWhile Json.isBlank, fun _ hc => List.mem_takeWhile_imp hc, ?_⟩
    rw [List.isEmpty_iff] at hp
    simp [held, hp, Json.skipBlanks, List.takeWhile_append_dropWhile]
  · exact ⟨[], by simp, rfl⟩

/-- What an advance keeps. The reader advances alike, and nothing is lost but blanks before a
document. -/
structure Advances (g : Gatherer) (out : Option Outcome × Gatherer) : Prop where
  toReader : g.toReader.advance = (out.1.map Outcome.reading, out.2.toReader)
  sound : out.2.Sound
  held : ∃ w, (∀ c ∈ w, Json.isBlank c) ∧ g.held = w ++ out.1.elim [] Outcome.spent ++ out.2.held

theorem Sound.advances (h : g.Sound) : g.Advances g.advance := by
  have hs := h.skip
  obtain ⟨w, hw, hheld⟩ := held_skip g
  have hskip := h.toReader_skip
  have hbadly := hs.startsBadly_toReader
  rw [advance]
  cases hb : g.skip.startsBadly with
  | true =>
    have hreader := Reader.advance_of_startsBadly hskip (hbadly.trans hb)
    exact ⟨hreader, hs, w, hw, by simpa [Outcome.spent] using hheld⟩
  | false =>
    rw [hb] at hbadly
    rw [if_neg Bool.false_ne_true]
    -- nothing to scan, a document that is open still, or one that was closed
    obtain ⟨hnil, hg⟩ | ⟨s', hne, hcut, hrun, hd, hg⟩ | ⟨p, rest, hp, hcut, hg⟩ :=
      hs.gather_cases hb g.skip.portions.flatten.reverse
    · have hcut : g.skip.tally.toScan.cut g.skip.portions.flatten.reverse g.skip.pending =
          (g.skip.tally.toScan, g.skip.portions.flatten.reverse, none) := by
        rw [hnil, Scan.cut]
      rw [hg]
      refine ⟨?_, hs, w, hw, by simpa using hheld⟩
      rw [Reader.advance_of_cut_none hskip hbadly hcut]
      simp [toReader, hnil]
    · rw [hg]
      refine ⟨?_, hs.gathered hb hne hrun hd, w, hw, by simpa [held] using hheld⟩
      rw [Reader.advance_of_cut_none hskip hbadly hcut]
      simp [toReader]
    · rw [hg]
      refine ⟨?_, .between, w, hw, by simpa [held, hp, Outcome.spent] using hheld⟩
      rw [Reader.advance_of_cut_some hskip hbadly hcut]
      simp [toReader, Outcome.reading]

variable {σ : Type} {s : Recorded σ}

def Uses (g : Gatherer) (s : Recorded σ) (out : Outcome × Gatherer × Recorded σ) : Prop :=
  ∃ fed w, out.2.2.given = s.given ++ fed ∧ (∀ c ∈ w, Json.isBlank c) ∧
    g.held ++ fed = w ++ out.1.spent ++ out.2.1.held

theorem Uses.of_advance {out : Outcome × Gatherer × Recorded σ} {s' : Recorded σ} {w cs : List Char}
    (hw : ∀ c ∈ w, Json.isBlank c) (hheld : g.held ++ cs = w ++ g'.held)
    (hgiven : s'.given = s.given ++ cs) (h : g'.Uses s' out) : g.Uses s out := by
  obtain ⟨fed, w', hout, hw', hfed⟩ := h
  refine ⟨cs ++ fed, w ++ w', ?_, List.forall_mem_append.2 ⟨hw, hw'⟩, ?_⟩
  · rw [hout, hgiven, List.append_assoc]
  · rw [← List.append_assoc, hheld, List.append_assoc, hfed]
    simp

variable [TextSource σ]

theorem Sound.toReader_nextWithin (h : g.Sound) (s : Recorded σ) (steps : Nat) :
    Reader.nextWithin steps g.toReader s.source =
      ((nextWithin steps g s).1.reading, (nextWithin steps g s).2.1.toReader,
        (nextWithin steps g s).2.2.source) := by
  induction steps generalizing g s with
  | zero => rfl
  | succ steps ih =>
    obtain ⟨hreader, hs, -⟩ := h.advances
    rw [Reader.nextWithin, nextWithin, hreader]
    rcases ha : g.advance with ⟨_ | outcome, g'⟩
    · rw [ha] at hs
      have hx : g'.toReader.exhausted = g'.exhausted := rfl
      simp only [Option.map_none, hx, hs.isEmpty_taken]
      cases g'.exhausted with
      | true => cases g'.portions <;> rfl
      | false =>
        simp only [Bool.false_eq_true, if_false, Recorded.pull_eq]
        rcases TextSource.pull s.source with ⟨cs | _ | f, source⟩
        · have hfed : (g'.feed cs).Sound := hs.congr rfl rfl
          exact ih hfed ⟨source, s.given ++ cs⟩
        · have hended : Sound { g' with exhausted := true } := hs.congr rfl rfl
          exact ih hended ⟨source, s.given⟩
        · rfl
    · rfl

theorem Sound.nextWithin (h : g.Sound) (s : Recorded σ) (steps : Nat) :
    (nextWithin steps g s).2.1.Sound ∧ g.Uses s (nextWithin steps g s) := by
  induction steps generalizing g s with
  | zero => exact ⟨h, [], [], by simp [Gatherer.nextWithin, Outcome.spent]⟩
  | succ steps ih =>
    obtain ⟨-, hs, w, hw, hheld⟩ := h.advances
    rw [Gatherer.nextWithin]
    rcases ha : g.advance with ⟨_ | outcome, g'⟩
    · rw [ha] at hs hheld
      have hheld : g.held = w ++ g'.held := by simpa using hheld
      cases hx : g'.exhausted with
      | true =>
        have hspent : (if g'.portions.isEmpty then Outcome.ended else .unfinished).spent = [] := by
          split <;> rfl
        simp only [hx, if_true]
        exact ⟨hs, [], w, by simp, hw, by rw [hspent, List.append_nil, List.append_nil, hheld]⟩
      | false =>
        simp only [hx, Bool.false_eq_true, if_false, Recorded.pull_eq]
        rcases TextSource.pull s.source with ⟨cs | _ | f, source⟩
        · have hfed : (g'.feed cs).Sound := hs.congr rfl rfl
          obtain ⟨hout, huses⟩ := ih hfed ⟨source, s.given ++ cs⟩
          exact ⟨hout, .of_advance hw (by simp [hheld]) rfl huses⟩
        · have hended : Sound { g' with exhausted := true } := hs.congr rfl rfl
          obtain ⟨hout, huses⟩ := ih hended ⟨source, s.given⟩
          exact ⟨hout, .of_advance hw ((List.append_nil _).trans hheld) (List.append_nil _).symm huses⟩
        · exact ⟨hs, [], w, by simp, hw, by simp [Outcome.spent, hheld]⟩
    · rw [ha] at hs hheld
      exact ⟨hs, [], w, by simp, hw, by simpa using hheld⟩

theorem Sound.next (h : g.Sound) (s : Recorded σ) : (g.next s).2.1.Sound ∧ g.Uses s (g.next s) :=
  h.nextWithin s _

theorem Sound.toReader_next (h : g.Sound) (s : Recorded σ) :
    g.toReader.next s.source =
      ((g.next s).1.reading, (g.next s).2.1.toReader, (g.next s).2.2.source) :=
  h.toReader_nextWithin s _

theorem Sound.toReader_inTurn (h : g.Sound) (s : Recorded σ) (n : Nat) :
    inTurn Reader.next n g.toReader s.source =
      ((inTurn Gatherer.next n g s).1.map Outcome.reading, (inTurn Gatherer.next n g s).2.1.toReader,
        (inTurn Gatherer.next n g s).2.2.source) := by
  induction n generalizing g s with
  | zero => rfl
  | succ n ih =>
    rw [inTurn_succ, inTurn_succ, h.toReader_next, ih (h.next s).1]
    rfl

theorem Sound.inTurn (h : g.Sound) (s : Recorded σ) (n : Nat) :
    (inTurn Gatherer.next n g s).2.1.Sound ∧ ∃ fed t, Spent (inTurn Gatherer.next n g s).1 t ∧
      (inTurn Gatherer.next n g s).2.2.given = s.given ++ fed ∧
        g.held ++ fed = t ++ (inTurn Gatherer.next n g s).2.1.held := by
  induction n generalizing g s with
  | zero => exact ⟨h, [], [], .nil, (List.append_nil _).symm, List.append_nil _⟩
  | succ n ih =>
    obtain ⟨hs, cs, w, hgiven, hw, hheld⟩ := h.next s
    obtain ⟨hout, fed, t, ht, hgivens, helds⟩ := ih hs (g.next s).2.2
    rw [inTurn_succ]
    refine ⟨hout, cs ++ fed, _, .cons hw ht, ?_, ?_⟩
    · rw [hgivens, hgiven, List.append_assoc]
    · rw [← List.append_assoc, hheld, List.append_assoc, helds, List.append_assoc _ t]

theorem exists_sound_inTurn (source : σ) (n : Nat) :
    ∃ os g s, inTurn Gatherer.next n initial (⟨source, []⟩ : Recorded σ) = (os, g, s) ∧
      inTurn Reader.next n .initial source = (os.map Outcome.reading, g.toReader, s.source) ∧
      g.Sound ∧ ∃ t, Spent os t ∧ s.given = t ++ g.held := by
  have h : initial.Sound := .between
  obtain ⟨hout, fed, t, ht, hgiven, hheld⟩ := h.inTurn ⟨source, []⟩ n
  exact ⟨_, _, _, rfl, h.toReader_inTurn ⟨source, []⟩ n, hout, t, ht, hgiven.trans hheld⟩

example :
    (inTurn Gatherer.next 1 initial
      (Chunks.ofList [.text "\n\x7b\"a\\".toList, .text "\"\": [".toList])).2.1 =
    ⟨["\x7b\"a\\".toList, "\"\": [".toList], ⟨2, false, false⟩, [], true⟩ := by cbv

end Gatherer

end ClusterHealth.Stream

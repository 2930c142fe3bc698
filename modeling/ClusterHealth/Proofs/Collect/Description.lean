import ClusterHealth.Collect.Cpus
import ClusterHealth.Proofs.EntryLaws
import ClusterHealth.Proofs.Text.CaseLaws
import ClusterHealth.Proofs.Text.CuttingLaws
import ClusterHealth.Proofs.Text.LineLaws

namespace ClusterHealth.Collect

open ClusterHealth.Text

section Writing

def IsPadding (s : String) : Prop := ∀ c ∈ s.toList, isBlank c = true ∧ isLineEnd c = false

instance (s : String) : Decidable (IsPadding s) := List.decidableBAll _ s.toList

structure IsName (name : String) : Prop where
  ascii : ∀ c ∈ name.toList, c.toNat < 0x80
  oneLine : OneLine name
  trimmed : Trimmed isBlank name.toList
  noColon : ':' ∉ name.toList

instance (name : String) : Decidable (IsName name) :=
  decidable_of_iff (name.toList.all (decide <| ·.toNat < 0x80) ∧ OneLine name ∧
      Trimmed isBlank name.toList ∧ ':' ∉ name.toList)
    ⟨fun ⟨hascii, hline, htrimmed, hcolon⟩ => ⟨by simpa using hascii, hline, htrimmed, hcolon⟩,
      fun h => ⟨by simpa using h.ascii, h.oneLine, h.trimmed, h.noColon⟩⟩

structure IsValue (value : String) : Prop where
  oneLine : OneLine value
  trimmed : Trimmed isBlank value.toList

instance (value : String) : Decidable (IsValue value) :=
  decidable_of_iff (OneLine value ∧ Trimmed isBlank value.toList)
    ⟨fun ⟨hline, htrimmed⟩ => ⟨hline, htrimmed⟩, fun h => ⟨h.oneLine, h.trimmed⟩⟩

def Spells (name written : String) : Prop := written.toList.map Char.toLower = name.toList

instance (name written : String) : Decidable (Spells name written) :=
  inferInstanceAs (Decidable (written.toList.map Char.toLower = name.toList))

def Sets (name value line : String) : Prop :=
  ∃ a written b c d, IsPadding a ∧ IsPadding b ∧ IsPadding c ∧ IsPadding d ∧ Spells name written ∧
    line = a ++ written ++ b ++ ":" ++ (c ++ value ++ d)

structure IsRemark (line : String) : Prop where
  oneLine : OneLine line
  notBlank : ¬ IsPadding line
  noColon : ':' ∉ line.toList

structure IsForeign (line : String) : Prop where
  oneLine : OneLine line
  notBlank : ¬ IsPadding line
  otherName : ∀ before after, line = before ++ ":" ++ after → ':' ∉ before.toList →
    lower (strip before) ≠ "processor"

inductive Block : Processor → List String → Prop
  | nil : Block [] []
  | entry {name value line : String} {p : Processor} {ls : List String} : IsName name → IsValue value →
      Sets name value line → Block p ls → Block ((name, value) :: p) (line :: ls)
  | remark {line : String} {p : Processor} {ls : List String} : IsRemark line → Block p ls →
      Block p (line :: ls)

def EndsBlock (ls : List String) : Prop := ∀ line ∈ ls.head?, IsPadding line

instance (ls : List String) : Decidable (EndsBlock ls) :=
  inferInstanceAs (Decidable (∀ line ∈ ls.head?, IsPadding line))

inductive Written : List Processor → List String → Prop
  | nil : Written [] []
  | blank {line : String} {ps : List Processor} {ls : List String} : IsPadding line → Written ps ls →
      Written ps (line :: ls)
  | processor {p : Processor} {ps : List Processor} {ls rest : List String} :
      (Entries.names p).Nodup → "processor" ∈ Entries.names p → Block p ls → EndsBlock rest →
      Written ps rest → Written (p :: ps) (ls ++ rest)
  | foreign {ps : List Processor} {ls rest : List String} : (∀ line ∈ ls, IsForeign line) →
      EndsBlock rest → Written ps rest → Written ps (ls ++ rest)

end Writing

section Lines

variable {name value written line : String} {p : Processor}

theorem isPadding_iff (hline : OneLine line) : IsPadding line ↔ strip line = "" := by
  rw [strip_eq_empty_iff]
  exact ⟨fun h c hc => (h c hc).1, fun h c hc => ⟨h c hc, hline c hc⟩⟩

theorem IsPadding.oneLine (h : IsPadding line) : OneLine line := fun c hc => (h c hc).2

theorem IsPadding.strip_eq (h : IsPadding line) : strip line = "" := (isPadding_iff h.oneLine).1 h

theorem oneLine_colon : OneLine ":" := by decide

theorem toLower_eq_self {q : Char → Bool} (hcapitals : ∀ n < 26, q (Char.ofNat (65 + n)) = false)
    {c : Char} (hc : q c = true) : c.toLower = c := by
  obtain hsame | ⟨n, hn, rfl⟩ := toLower_cases c
  · exact hsame
  · rw [hcapitals n hn] at hc
    cases hc

theorem eq_false_of_toLower {q : Char → Bool} (hcapitals : ∀ n < 26, q (Char.ofNat (65 + n)) = false)
    {c : Char} (hc : q c.toLower = false) : q c = false := by
  cases hq : q c with
  | false => rfl
  | true =>
    rw [toLower_eq_self hcapitals hq, hq] at hc
    cases hc

theorem isBlank_of_capital : ∀ n < 26, isBlank (Char.ofNat (65 + n)) = false := by decide

namespace Spells

variable (h : Spells name written)

include h

theorem toLower_mem {c : Char} (hc : c ∈ written.toList) : c.toLower ∈ name.toList :=
  h ▸ List.mem_map_of_mem hc

theorem forall_eq_false {q : Char → Bool} (hcapitals : ∀ n < 26, q (Char.ofNat (65 + n)) = false)
    (hname : ∀ c ∈ name.toList, q c = false) : ∀ c ∈ written.toList, q c = false :=
  fun c hc => eq_false_of_toLower hcapitals (hname c.toLower (h.toLower_mem hc))

theorem trimmed (hname : Trimmed isBlank name.toList) : Trimmed isBlank written.toList where
  first c hc := by
    apply eq_false_of_toLower isBlank_of_capital
    apply hname.first
    rw [← h, List.head?_map]
    exact Option.mem_map_of_mem _ hc
  last c hc := by
    apply eq_false_of_toLower isBlank_of_capital
    apply hname.last
    rw [← h, List.getLast?_map]
    exact Option.mem_map_of_mem _ hc

theorem lower_eq (hname : ∀ c ∈ name.toList, c.toNat < 0x80) : lower written = name := by
  have hascii : ∀ c ∈ written.toList, c.toNat < 0x80 := by
    have hwide : ∀ c ∈ written.toList, decide (0x80 ≤ c.toNat) = false := by
      apply h.forall_eq_false (by decide)
      intro c hc
      simpa using hname c hc
    intro c hc
    simpa using hwide c hc
  rw [lower_of_ascii hascii, h, String.ofList_toList]

theorem oneLine (hname : OneLine name) : OneLine written := h.forall_eq_false (by decide) hname

theorem noColon (hname : ':' ∉ name.toList) : ':' ∉ written.toList := by
  have hcolon : ∀ c ∈ written.toList, (c == ':') = false := by
    apply h.forall_eq_false (by decide)
    intro c hc
    exact beq_false_of_ne (ne_of_mem_of_not_mem hc hname)
  intro hmem
  exact absurd (hcolon ':' hmem) (by decide)

end Spells

theorem colon_not_mem_of_isPadding {a : String} (h : IsPadding a) : ':' ∉ a.toList :=
  fun hmem => absurd (h ':' hmem).1 (by decide)

theorem colon_mem {before after : String} : ':' ∈ (before ++ ":" ++ after).toList := by simp

theorem addLine_of_sets (hname : IsName name) (hvalue : IsValue value) (hline : Sets name value line)
    (p : Processor) : p.addLine line = Entries.put name value p := by
  obtain ⟨a, written, b, c, d, ha, hb, hc, hd, hspells, rfl⟩ := hline
  have hcolon : ':' ∉ (a ++ written ++ b).toList := by
    simp [colon_not_mem_of_isPadding ha, colon_not_mem_of_isPadding hb, hspells.noColon hname.noColon]
  have hwritten : strip (a ++ written ++ b) = written :=
    strip_append (hspells.trimmed hname.trimmed) (fun x hx => (ha x hx).1) fun x hx => (hb x hx).1
  have hstripped : strip (c ++ value ++ d) = value :=
    strip_append hvalue.trimmed (fun x hx => (hc x hx).1) fun x hx => (hd x hx).1
  rw [Processor.addLine, splitAtFirst?_append rfl hcolon]
  dsimp only
  rw [hwritten, hstripped, hspells.lower_eq hname.ascii]

theorem Sets.oneLine (hname : IsName name) (hvalue : IsValue value) (hline : Sets name value line) :
    OneLine line := by
  obtain ⟨a, written, b, c, d, ha, hb, hc, hd, hspells, rfl⟩ := hline
  have hwritten := hspells.oneLine hname.oneLine
  exact (((ha.oneLine.append hwritten).append hb.oneLine).append oneLine_colon).append
    ((hc.oneLine.append hvalue.oneLine).append hd.oneLine)

theorem Sets.strip_ne (hline : Sets name value line) : strip line ≠ "" := by
  obtain ⟨a, written, b, c, d, -, -, -, -, -, rfl⟩ := hline
  intro hblank
  exact absurd (strip_eq_empty_iff.1 hblank ':' colon_mem) (by decide)

theorem splitAtFirst?_eq_none {s : String} (h : ':' ∉ s.toList) : splitAtFirst? ':' s = none := by
  have hall : ∀ c ∈ s.toList, (c != ':') = true := fun c hc => bne_iff_ne.2 (ne_of_mem_of_not_mem hc h)
  simp [splitAtFirst?, List.dropWhile_eq_nil_iff.2 hall]

theorem eq_of_splitAtFirst? {s before after : String} (h : splitAtFirst? ':' s = some (before, after)) :
    s = before ++ ":" ++ after ∧ ':' ∉ before.toList := by
  unfold splitAtFirst? at h
  dsimp only at h
  split at h
  · next colon rest hrest =>
    obtain ⟨rfl, rfl⟩ := Prod.mk.inj (Option.some.inj h)
    have hcolon : colon = ':' := by
      have hhead := List.head?_dropWhile_not (· != ':') s.toList
      rw [hrest] at hhead
      simpa using hhead
    constructor
    · apply String.toList_injective
      rw [String.toList_append, String.toList_append, String.toList_ofList, String.toList_ofList]
      conv_lhs => rw [← List.takeWhile_append_dropWhile (p := (· != ':')) (l := s.toList)]
      rw [hrest, hcolon]
      simp
    · rw [String.toList_ofList]
      intro hmem
      simpa using List.mem_takeWhile_imp hmem
  · cases h

theorem addLine_of_isRemark (hline : IsRemark line) (p : Processor) : p.addLine line = p := by
  rw [Processor.addLine, splitAtFirst?_eq_none hline.noColon]

theorem not_mem_names_addLine (hline : IsForeign line) (hp : "processor" ∉ Entries.names p) :
    "processor" ∉ Entries.names (p.addLine line) := by
  unfold Processor.addLine
  split
  · exact hp
  · next name value hsplit =>
    obtain ⟨heq, hcolon⟩ := eq_of_splitAtFirst? hsplit
    have hne := hline.otherName name value heq hcolon
    rw [← Entries.get?_eq_none_iff] at hp ⊢
    rwa [Entries.get?_put_of_ne (Ne.symm hne)]

end Lines

section Blocks

variable {line : String} {ls rest : List String} {block p q : Processor} {ps : List Processor}

theorem blocks_cons_of_ne (hline : strip line ≠ "") :
    Processor.blocks block (line :: rest) = Processor.blocks (block.addLine line) rest := by
  rw [Processor.blocks, if_neg hline]

theorem blocks_cons_blank (hline : IsPadding line) :
    Processor.blocks [] (line :: rest) = Processor.blocks [] rest := by
  rw [Processor.blocks, if_pos hline.strip_eq]
  rfl

theorem blocks_of_endsBlock (hrest : EndsBlock rest) (hne : block ≠ []) :
    Processor.blocks block rest = block :: Processor.blocks [] rest := by
  have hempty : block.isEmpty = false := by simpa using hne
  cases rest with
  | nil =>
    rw [Processor.blocks, hempty]
    rfl
  | cons line rest =>
    have hline : IsPadding line := hrest line rfl
    rw [blocks_cons_blank hline, Processor.blocks, if_pos hline.strip_eq, hempty]
    rfl

theorem Block.blocks_append (hls : Block p ls) (hnodup : (Entries.names (block ++ p)).Nodup)
    (rest : List String) :
    Processor.blocks block (ls ++ rest) = Processor.blocks (block ++ p) rest := by
  induction hls generalizing block with
  | nil => rw [List.nil_append, List.append_nil]
  | @entry name value line p ls hname hvalue hline hls ih =>
    have hnew : name ∉ Entries.names block := by
      rw [Entries.names, List.map_append, List.nodup_append] at hnodup
      exact fun hmem => hnodup.2.2 name hmem name List.mem_cons_self rfl
    rw [List.cons_append, blocks_cons_of_ne hline.strip_ne, addLine_of_sets hname hvalue hline,
      Entries.put_of_not_mem hnew, ih (by simpa using hnodup), List.append_assoc]
    rfl
  | remark hline hls ih =>
    have hne := mt (isPadding_iff hline.oneLine).2 hline.notBlank
    rw [List.cons_append, blocks_cons_of_ne hne, addLine_of_isRemark hline, ih hnodup]

theorem exists_blocks_of_foreign (hls : ∀ line ∈ ls, IsForeign line)
    (hq : "processor" ∉ Entries.names q) (rest : List String) :
    ∃ q', "processor" ∉ Entries.names q' ∧
      Processor.blocks q (ls ++ rest) = Processor.blocks q' rest := by
  induction ls generalizing q with
  | nil => exact ⟨q, hq, rfl⟩
  | cons line ls ih =>
    obtain ⟨hline, hls⟩ := List.forall_mem_cons.1 hls
    obtain ⟨q', hq', heq⟩ := ih hls (not_mem_names_addLine hline hq)
    have hne := mt (isPadding_iff hline.oneLine).2 hline.notBlank
    exact ⟨q', hq', by rw [List.cons_append, blocks_cons_of_ne hne, heq]⟩

theorem has_processor_iff : p.has "processor" = true ↔ "processor" ∈ Entries.names p := by
  simp [Entries.has, Entries.names]

theorem Written.filter_blocks (h : Written ps ls) :
    (Processor.blocks [] ls).filter (·.has "processor") = ps := by
  induction h with
  | nil => rfl
  | blank hline _ ih => rw [blocks_cons_blank hline, ih]
  | @processor p ps ls rest hnodup hprocessor hls hrest _ ih =>
    have hne : p ≠ [] := by
      rintro rfl
      cases hprocessor
    have happend : Processor.blocks [] (ls ++ rest) = Processor.blocks p rest :=
      hls.blocks_append (by simpa using hnodup) rest
    rw [happend, blocks_of_endsBlock hrest hne,
      List.filter_cons, if_pos (has_processor_iff.2 hprocessor), ih]
  | @foreign ps ls rest hls hrest _ ih =>
    have hnone : "processor" ∉ Entries.names ([] : Processor) := List.not_mem_nil
    obtain ⟨q, hq, heq⟩ := exists_blocks_of_foreign hls hnone rest
    rw [heq]
    by_cases hne : q = []
    · rw [hne, ih]
    · rw [blocks_of_endsBlock hrest hne, List.filter_cons, if_neg (mt has_processor_iff.1 hq), ih]

theorem Block.oneLine (h : Block p ls) : ∀ line ∈ ls, OneLine line := by
  induction h with
  | nil => exact nofun
  | entry hname hvalue hline _ ih => exact List.forall_mem_cons.2 ⟨hline.oneLine hname hvalue, ih⟩
  | remark hline _ ih => exact List.forall_mem_cons.2 ⟨hline.oneLine, ih⟩

theorem Written.oneLine (h : Written ps ls) : ∀ line ∈ ls, OneLine line := by
  induction h with
  | nil => exact nofun
  | blank hline _ ih => exact List.forall_mem_cons.2 ⟨hline.oneLine, ih⟩
  | processor _ _ hls _ _ ih => exact List.forall_mem_append.2 ⟨hls.oneLine, ih⟩
  | foreign hls _ _ ih => exact List.forall_mem_append.2 ⟨fun line hline => (hls line hline).oneLine, ih⟩

end Blocks

section Texts

variable {ls : List String} {block : Processor} {ps : List Processor}

theorem blocks_concat_empty (block : Processor) (ls : List String) :
    Processor.blocks block (ls ++ [""]) = Processor.blocks block ls := by
  induction ls generalizing block with
  | nil => cases block <;> rfl
  | cons line ls ih => rw [List.cons_append, Processor.blocks, Processor.blocks, ih, ih]

/-- Lines that were joined are read as they are, since an empty one at the end makes no difference. -/
theorem parse_intercalate (h : ∀ line ∈ ls, OneLine line) :
    Processor.parse ("\n".intercalate ls) =
      (Processor.blocks [] ls).filter (·.has "processor") := by
  rw [Processor.parse]
  obtain hlines | hlines := lines_intercalate h
  · rw [hlines]
  · rw [← blocks_concat_empty, hlines]

inductive IsText (ls : List String) : String → Prop
  | bare : IsText ls ("\n".intercalate ls)
  | closed : IsText ls ("\n".intercalate ls ++ "\n")

theorem closed_eq (hne : ls ≠ []) : "\n".intercalate ls ++ "\n" = "\n".intercalate (ls ++ [""]) := by
  rw [String.intercalate_append_of_ne_nil hne (List.cons_ne_nil _ _), String.intercalate_singleton,
    String.append_empty]

theorem parse_of_written {text : String} (hwritten : Written ps ls) (htext : IsText ls text) :
    Processor.parse text = ps := by
  cases htext with
  | bare => rw [parse_intercalate hwritten.oneLine, hwritten.filter_blocks]
  | closed =>
    by_cases hne : ls = []
    · subst hne
      have hps : [] = ps := hwritten.filter_blocks
      rw [← hps]
      decide
    · have hlines : ∀ line ∈ ls ++ [""], OneLine line :=
        List.forall_mem_append.2 ⟨hwritten.oneLine, by decide⟩
      rw [closed_eq hne, parse_intercalate hlines, blocks_concat_empty, hwritten.filter_blocks]

def mixedDescription : List String :=
  ["", "Processor\t: 0", "no value", "Model Name : a:b ", " ", "Hardware: x", "\t", "processor:1", "flags:"]

def mixedProcessors : List Processor :=
  [[("processor", "0"), ("model name", "a:b")], [("processor", "1"), ("flags", "")]]

theorem written_mixedDescription : Written mixedProcessors mixedDescription := by
  have hfirst : Block [("processor", "0"), ("model name", "a:b")]
      ["Processor\t: 0", "no value", "Model Name : a:b "] := by
    refine .entry (by decide) (by decide)
      ⟨"", "Processor", "\t", " ", "", by decide, by decide, by decide, by decide, by decide, rfl⟩ ?_
    refine .remark ⟨by decide, by decide, by decide⟩ (.entry (by decide) (by decide) ?_ .nil)
    exact ⟨"", "Model Name", " ", " ", " ", by decide, by decide, by decide, by decide, by decide, rfl⟩
  have hsecond : Block [("processor", "1"), ("flags", "")] ["processor:1", "flags:"] := by
    refine .entry (by decide) (by decide)
      ⟨"", "processor", "", "", "", by decide, by decide, by decide, by decide, by decide, rfl⟩ ?_
    refine .entry (by decide) (by decide) ?_ .nil
    exact ⟨"", "flags", "", "", "", by decide, by decide, by decide, by decide, by decide, rfl⟩
  have hforeign : ∀ line ∈ ["Hardware: x"], IsForeign line := by
    intro line hline
    obtain rfl := List.mem_singleton.1 hline
    refine ⟨by decide, by decide, fun before after heq hcolon => ?_⟩
    have hsplit : splitAtFirst? ':' "Hardware: x" = some (before, after) :=
      heq ▸ splitAtFirst?_append rfl hcolon
    have hcut : splitAtFirst? ':' "Hardware: x" = some ("Hardware", " x") := by decide
    obtain ⟨rfl, -⟩ := Prod.mk.inj (Option.some.inj (hcut.symm.trans hsplit))
    decide +kernel
  refine .blank (by decide) (.processor (by decide) (by decide) hfirst (by decide) ?_)
  refine .blank (by decide) (.foreign hforeign (by decide) ?_)
  refine .blank (by decide) (.processor (by decide) (by decide) hsecond (by decide) .nil)

theorem parse_of_written_mixedDescription : Written mixedProcessors mixedDescription ∧
    IsText mixedDescription ("\n".intercalate mixedDescription ++ "\n") ∧
      Processor.parse ("\n".intercalate mixedDescription ++ "\n") = mixedProcessors :=
  ⟨written_mixedDescription, .closed, parse_of_written written_mixedDescription .closed⟩

end Texts

end ClusterHealth.Collect

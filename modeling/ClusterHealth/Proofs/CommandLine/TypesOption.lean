import ClusterHealth.Proofs.CommandLine.SnapshotAgreement

namespace ClusterHealth.CommandLine

open ClusterHealth.Agent ClusterHealth.Text ClusterHealth.Web

variable {names : List String}

def Agree : Except DataType.UnknownNames (List DataType) → Except DataType.UnknownNames (List DataType) → Prop
  | .ok types, .ok others => ∀ t, t ∈ types ↔ t ∈ others
  | .error e, .error e' => e.message = e'.message
  | _, _ => False

theorem Agree.refl (r : Except DataType.UnknownNames (List DataType)) : Agree r r := by
  cases r with
  | error e => exact rfl
  | ok types => exact fun t => Iff.rfl

theorem not_agree_all_none : ¬ Agree (.ok DataType.all) (.ok []) := by
  intro hagree
  exact nomatch (hagree .perfDrive).1 (DataType.mem_all _)

def optionSelection (names : List String) : Except DataType.UnknownNames (List DataType) :=
  DataType.resolve (some (",".intercalate names))

def querySelection (names : List String) : Except DataType.UnknownNames (List DataType) :=
  Api.selection (parseForm (typesQuery names))

theorem joined_eq_empty_iff : ",".intercalate names = "" ↔ names = [] ∨ names = [""] := by
  match names with
  | [] => exact iff_of_true rfl (.inl rfl)
  | [n] => simp [String.intercalate_singleton]
  | n :: m :: rest => simp [String.intercalate_cons_cons]

theorem optionSelection_eq (hcommas : ∀ n ∈ names, ',' ∉ n.toList) (hempty : names ≠ [""]) :
    optionSelection names = querySelection names := by
  rw [querySelection, selection_typesQuery, selected]
  split
  · next hnames =>
    subst hnames
    rfl
  · next hnames =>
    exact DataType.resolve_intercalate hcommas fun h => (joined_eq_empty_iff.1 h).elim hnames hempty

theorem parse_of_blank (hblank : ∀ n ∈ names, strip n = "") : DataType.parse names = .ok [] := by
  have hspoken : DataType.spoken names = DataType.spoken [] := by simpa [DataType.spoken] using hblank
  have hperm : (DataType.spoken []).Perm (DataType.spoken names) := hspoken ▸ .refl _
  rw [DataType.parse_eq_of_perm hperm]
  rfl

/-- What blank names select: as a query nothing, however many they are, and as an option everything where
they leave no text between the commas. -/
structure BlankSelection (names : List String) : Prop where
  option : optionSelection names = .ok (if names = [] ∨ names = [""] then DataType.all else [])
  query : querySelection names = .ok (if names = [] then DataType.all else [])

theorem querySelection_of_blank (hblank : ∀ n ∈ names, strip n = "") :
    querySelection names = .ok (if names = [] then DataType.all else []) := by
  rw [querySelection, selection_typesQuery, selected]
  split
  · rfl
  · exact parse_of_blank hblank

theorem blankSelection (hcommas : ∀ n ∈ names, ',' ∉ n.toList) (hblank : ∀ n ∈ names, strip n = "") :
    BlankSelection names := by
  refine ⟨?_, querySelection_of_blank hblank⟩
  by_cases hempty : names = [""]
  · subst hempty
    rfl
  · rw [optionSelection_eq hcommas hempty, querySelection_of_blank hblank]
    simp only [or_iff_left hempty]

theorem selections_agree_iff (hcommas : ∀ n ∈ names, ',' ∉ n.toList) :
    (Agree (optionSelection names) (querySelection names) ↔ names ≠ [""]) ∧
      ((∀ n ∈ names, strip n = "") → BlankSelection names) := by
  refine ⟨⟨?_, fun hempty => optionSelection_eq hcommas hempty ▸ .refl _⟩, blankSelection hcommas⟩
  rintro hagree rfl
  have hblank : ∀ n ∈ [""], strip n = "" := by decide +kernel
  obtain ⟨hoption, hquery⟩ := blankSelection hcommas hblank
  rw [hoption, hquery] at hagree
  exact not_agree_all_none hagree

theorem selections_agree_blanks : Agree (optionSelection [" SysCPU", "", "perfnet"])
      (querySelection [" SysCPU", "", "perfnet"]) ∧
    Agree (optionSelection ["bogus", " "]) (querySelection ["bogus", " "]) ∧
    BlankSelection ["", "\t"] := by
  have hknown := @selections_agree_iff [" SysCPU", "", "perfnet"] (by decide)
  have hunknown := @selections_agree_iff ["bogus", " "] (by decide)
  have hblank := @selections_agree_iff ["", "\t"] (by decide)
  exact ⟨hknown.1.2 (by decide), hunknown.1.2 (by decide), hblank.2 (by decide +kernel)⟩

theorem not_agree_empty : ¬ Agree (optionSelection [""]) (querySelection [""]) := by
  have hoption : optionSelection [""] = .ok DataType.all := rfl
  have hquery : querySelection [""] = .ok [] := by decide +kernel
  rw [hoption, hquery]
  exact not_agree_all_none

end ClusterHealth.CommandLine

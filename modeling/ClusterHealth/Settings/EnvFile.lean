import ClusterHealth.Entries
import ClusterHealth.Text.Basic

namespace ClusterHealth.EnvFile

open ClusterHealth.Text

structure Binding where
  name : String
  value : Option String
deriving DecidableEq

def isInlineBlank (c : Char) : Bool := isBlank c && c != '\n'

def skipInline (s : List Char) : List Char := s.dropWhile isInlineBlank

def afterLine (s : List Char) : List Char := (s.dropWhile (· != '\n')).drop 1

def exportWord : List Char := "export".toList

def skipExport (s : List Char) : List Char :=
  let rest := s.drop exportWord.length
  if exportWord.isPrefixOf s && (rest.head?.map isInlineBlank).getD false then skipInline rest else s

def isNameChar (c : Char) : Bool := c != '=' && c != '#' && !isBlank c

def run? (p : Char → Bool) (s : List Char) : Option (String × List Char) :=
  if s.takeWhile p = [] then none else some (String.ofList (s.takeWhile p), s.dropWhile p)

def name? (s : List Char) : Option (String × List Char) :=
  match s with
  | '\'' :: rest =>
    (run? (· != '\'') rest).bind fun (name, rest) =>
      match rest with
      | _ :: rest => some (name, rest)
      | [] => none
  | s => run? isNameChar s

/-- What stands before the closing quote and after it. A quote after a backslash closes only if no later
one does. -/
def closing (mark : Char) : List Char → Option (List Char × List Char)
  | [] => none
  | [c] => if c = mark then some ([], []) else none
  | c :: d :: rest =>
    if c = mark then some ([], d :: rest)
    else if c = '\\' ∧ d = mark then
      match closing mark rest with
      | some (inside, after) => some (c :: d :: inside, after)
      | none => some ([c], rest)
    else (closing mark (d :: rest)).map fun (inside, after) => (c :: inside, after)

def singleEscape? (c : Char) : Option Char := if c = '\\' ∨ c = '\'' then some c else none

def doubleEscape? : Char → Option Char
  | '\\' => some '\\'
  | '\'' => some '\''
  | '"' => some '"'
  | 'a' => some '\x07'
  | 'b' => some '\x08'
  | 'f' => some '\x0c'
  | 'n' => some '\n'
  | 'r' => some '\r'
  | 't' => some '\t'
  | 'v' => some '\x0b'
  | _ => none

/-- A backslash that begins no escape stands for itself. -/
def unescape (escape? : Char → Option Char) : List Char → List Char
  | '\\' :: c :: rest =>
    match escape? c with
    | some d => d :: unescape escape? rest
    | none => '\\' :: unescape escape? (c :: rest)
  | c :: rest => c :: unescape escape? rest
  | [] => []

/-- A value without quotes ends before the blanks in front of a number sign. -/
def uncommented : List Char → List Char
  | c :: '#' :: rest => if isBlank c then [] else c :: uncommented ('#' :: rest)
  | c :: rest => c :: uncommented rest
  | [] => []

def value? (s : List Char) : Option (String × List Char) :=
  match s with
  | '\'' :: rest =>
    (closing '\'' rest).map fun (inside, after) =>
      (String.ofList (unescape singleEscape? inside), after)
  | '"' :: rest =>
    (closing '"' rest).map fun (inside, after) =>
      (String.ofList (unescape doubleEscape? inside), after)
  | s =>
    some (String.ofList (trimRight isBlank (uncommented (s.takeWhile (· != '\n')))),
      s.dropWhile (· != '\n'))

/-- A binding counts if its line holds nothing more than a comment. -/
def settle (b : Binding) (s : List Char) : Option Binding × List Char :=
  match skipInline s with
  | [] => (some b, [])
  | '\n' :: rest => (some b, rest)
  | '#' :: rest => (some b, afterLine rest)
  | rest => (none, afterLine rest)

def bindingOf (name : String) (s : List Char) : Option Binding × List Char :=
  match skipInline s with
  | '=' :: rest =>
    match value? (skipInline rest) with
    | some (value, rest) => settle ⟨name, some value⟩ rest
    | none => (none, afterLine rest)
  | rest => settle ⟨name, none⟩ rest

def binding (s : List Char) : Option Binding × List Char :=
  match name? (skipExport s) with
  | some (name, rest) => bindingOf name rest
  | none => (none, afterLine s)

theorem length_skipInline_le (s : List Char) : (skipInline s).length ≤ s.length :=
  (List.dropWhile_suffix _).length_le

theorem length_afterLine_le (s : List Char) : (afterLine s).length ≤ s.length := by
  have : (s.dropWhile (· != '\n')).length ≤ s.length := (List.dropWhile_suffix _).length_le
  simp only [afterLine, List.length_drop]
  omega

theorem length_afterLine_lt {s : List Char} (h : s ≠ []) : (afterLine s).length < s.length := by
  have : (s.dropWhile (· != '\n')).length ≤ s.length := (List.dropWhile_suffix _).length_le
  have : 0 < s.length := List.length_pos_iff.2 h
  simp only [afterLine, List.length_drop]
  omega

theorem length_skipExport_le (s : List Char) : (skipExport s).length ≤ s.length := by
  simp only [skipExport]
  split
  · have := length_skipInline_le (s.drop exportWord.length)
    simp only [List.length_drop] at this
    omega
  · exact Nat.le_refl _

theorem length_run?_lt {p : Char → Bool} {s rest : List Char} {x : String}
    (h : run? p s = some (x, rest)) : rest.length < s.length := by
  simp only [run?] at h
  split at h
  · simp at h
  · next hne =>
    simp only [Option.some.injEq, Prod.mk.injEq] at h
    have : (s.takeWhile p ++ s.dropWhile p).length = s.length := by rw [List.takeWhile_append_dropWhile]
    have : 0 < (s.takeWhile p).length := List.length_pos_iff.2 hne
    simp only [List.length_append] at *
    rw [← h.2]
    omega

theorem length_name?_lt {s rest : List Char} {x : String} (h : name? s = some (x, rest)) :
    rest.length < s.length := by
  unfold name? at h
  split at h
  · simp only [Option.bind_eq_some_iff, Prod.exists] at h
    obtain ⟨y, r, hr, h⟩ := h
    have := length_run?_lt hr
    split at h
    · simp only [Option.some.injEq, Prod.mk.injEq] at h
      simp only [List.length_cons, ← h.2] at *
      omega
    · simp at h
  · exact length_run?_lt h

theorem length_closing_lt {mark : Char} {s inside rest : List Char}
    (h : closing mark s = some (inside, rest)) : rest.length < s.length := by
  fun_induction closing mark s generalizing inside rest <;> simp_all <;> grind

theorem length_value?_le {s rest : List Char} {x : String} (h : value? s = some (x, rest)) :
    rest.length ≤ s.length := by
  unfold value? at h
  split at h
  · simp only [Option.map_eq_some_iff, Prod.exists, Prod.mk.injEq] at h
    obtain ⟨_, r, hr, _, rfl⟩ := h
    have := length_closing_lt hr
    simp only [List.length_cons]
    omega
  · simp only [Option.map_eq_some_iff, Prod.exists, Prod.mk.injEq] at h
    obtain ⟨_, r, hr, _, rfl⟩ := h
    have := length_closing_lt hr
    simp only [List.length_cons]
    omega
  · simp only [Option.some.injEq, Prod.mk.injEq] at h
    rw [← h.2]
    exact (List.dropWhile_suffix _).length_le

theorem length_settle_le (b : Binding) (s : List Char) : (settle b s).2.length ≤ s.length := by
  have h := length_skipInline_le s
  unfold settle
  split
  · simp
  · simp_all
    omega
  · next rest hs =>
    have := length_afterLine_le rest
    simp_all
    omega
  · next rest hs => exact Nat.le_trans (length_afterLine_le _) h

theorem length_bindingOf_le (name : String) (s : List Char) :
    (bindingOf name s).2.length ≤ s.length := by
  have h := length_skipInline_le s
  unfold bindingOf
  split
  · next rest hs =>
    rw [hs] at h
    simp only [List.length_cons] at h
    have := length_skipInline_le rest
    split
    · next value rest' hv =>
      have := length_value?_le hv
      have := length_settle_le ⟨name, some value⟩ rest'
      omega
    · have := length_afterLine_le rest
      simp only
      omega
  · exact Nat.le_trans (length_settle_le _ _) h

theorem length_binding_lt {s : List Char} (h : s ≠ []) : (binding s).2.length < s.length := by
  unfold binding
  split
  · next name rest hn =>
    have := length_name?_lt hn
    have := length_skipExport_le s
    have := length_bindingOf_le name rest
    omega
  · exact length_afterLine_lt h

def bindingsOf (s : List Char) : List Binding :=
  if _h : s.dropWhile isBlank = [] then []
  else
    (binding (s.dropWhile isBlank)).1.toList ++ bindingsOf (binding (s.dropWhile isBlank)).2
termination_by s.length
decreasing_by
  have := length_binding_lt ‹_›
  have : (s.dropWhile isBlank).length ≤ s.length := (List.dropWhile_suffix _).length_le
  omega

def reference? (s : List Char) : Option (String × String × List Char) :=
  let name := String.ofList (s.takeWhile fun c => c != '\x7d' && c != ':')
  match s.dropWhile fun c => c != '\x7d' && c != ':' with
  | '\x7d' :: rest => some (name, "", rest)
  | ':' :: '-' :: rest =>
    match rest.dropWhile (· != '\x7d') with
    | _ :: after => some (name, String.ofList (rest.takeWhile (· != '\x7d')), after)
    | [] => none
  | _ => none

theorem length_reference?_lt {s rest : List Char} {x y : String}
    (h : reference? s = some (x, y, rest)) : rest.length < s.length := by
  have hs : (s.dropWhile fun c => c != '\x7d' && c != ':').length ≤ s.length :=
    (List.dropWhile_suffix _).length_le
  simp only [reference?] at h
  split at h
  · next hd =>
    rw [hd] at hs
    simp only [Option.some.injEq, Prod.mk.injEq] at h
    simp only [List.length_cons, h.2.2] at hs
    omega
  · next tail hd =>
    have ht : (tail.dropWhile (· != '\x7d')).length ≤ tail.length :=
      (List.dropWhile_suffix _).length_le
    rw [hd] at hs
    split at h
    · next hd' =>
      rw [hd'] at ht
      simp only [Option.some.injEq, Prod.mk.injEq] at h
      simp only [List.length_cons, h.2.2] at hs ht
      omega
    · simp at h
  · simp at h

def expand (look : String → String → String) (s : List Char) : List Char :=
  match s with
  | [] => []
  | '$' :: '\x7b' :: rest =>
    match _h : reference? rest with
    | some (name, fallback, after) => (look name fallback).toList ++ expand look after
    | none => '$' :: '\x7b' :: expand look rest
  | c :: rest => c :: expand look rest
termination_by s.length
decreasing_by
  · have := length_reference?_lt ‹_›
    simp only [List.length_cons]
    omega
  · simp only [List.length_cons]
    omega
  · simp only [List.length_cons]
    omega

/-- The value of a name: that of the file so far, where one may be missing, else that of the
environment, else the fallback. -/
def look (environment : Entries String) (known : Entries (Option String)) (name fallback : String) :
    String :=
  match known.get? name with
  | some v => v.getD ""
  | none => (environment.get? name).getD fallback

def evaluate (environment : Entries String) (known : Entries (Option String)) :
    List Binding → Entries (Option String)
  | [] => known
  | b :: rest =>
    let value := b.value.map fun v => String.ofList (expand (look environment known) v.toList)
    evaluate environment (known.put b.name value) rest

def read (environment : Entries String) (text : String) : Entries (Option String) :=
  evaluate environment [] (bindingsOf (unifyLineEnds text.toList))

end ClusterHealth.EnvFile

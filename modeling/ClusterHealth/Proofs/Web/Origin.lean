import ClusterHealth.Proofs.Number.WholeText
import ClusterHealth.Proofs.Results
import ClusterHealth.Proofs.Text.CaseLaws
import ClusterHealth.Proofs.Text.CuttingLaws
import ClusterHealth.Web.Headers
import ClusterHealth.Web.Url

namespace ClusterHealth

open ClusterHealth.Text

namespace Web

section Case

theorem toLower_toLower (c : Char) : c.toLower.toLower = c.toLower := by
  obtain h | ⟨n, hn, rfl⟩ := toLower_cases c
  · rw [h, h]
  · have hall : ∀ n < 26, (Char.ofNat (65 + n)).toLower.toLower = (Char.ofNat (65 + n)).toLower := by
      decide
    exact hall n hn

theorem asciiLower_asciiLower (s : String) : asciiLower (asciiLower s) = asciiLower s := by
  have hlower : Char.toLower ∘ Char.toLower = Char.toLower := funext toLower_toLower
  rw [asciiLower, asciiLower, String.toList_ofList, List.map_map, hlower]

end Case

namespace Url

section Hosts

variable {names : HostNames} {host host' : String}

theorem inHost_toLower {c : Char} (h : inHost c = true) : inHost c.toLower = true := by
  obtain hsame | ⟨n, hn, rfl⟩ := toLower_cases c
  · rwa [hsame]
  · have hall : ∀ n < 26, inHost (Char.ofNat (65 + n)).toLower = true := by decide
    exact hall n hn

theorem inHost_upperHex : ∀ n < 16, inHost (upperHex n) = true := by decide

theorem inHost_of_mem_escapeChar {c d : Char} (h : d ∈ escapeChar c) : inHost d = true := by
  obtain ⟨b, -, hd⟩ := List.mem_flatMap.1 h
  have hb := b.toNat_lt
  simp only [octetEscape, List.mem_cons, List.not_mem_nil, or_false] at hd
  obtain rfl | rfl | rfl := hd
  · decide
  · exact inHost_upperHex _ (by omega)
  · exact inHost_upperHex _ (by omega)

theorem inHost_of_mem_percentEncode {s : String} {d : Char} (h : d ∈ (percentEncode inHost s).toList) :
    inHost d = true := by
  rw [percentEncode, String.toList_ofList] at h
  obtain ⟨c, -, hd⟩ := List.mem_flatMap.1 h
  split at hd
  · next hc =>
    obtain rfl := List.mem_singleton.1 hd
    exact hc
  · exact inHost_of_mem_escapeChar hd

theorem percentEncode_eq_self {admitted : Char → Bool} {s : String}
    (h : ∀ c ∈ s.toList, admitted c = true) : percentEncode admitted s = s := by
  have hsame : (s.toList.flatMap fun c => if admitted c then [c] else escapeChar c) =
      s.toList.flatMap fun c => [c] := List.flatMap_congr fun c hc => if_pos (h c hc)
  rw [percentEncode, hsame, List.flatMap_singleton', String.ofList_toList]

theorem inHost_of_isDigit {c : Char} (h : c.isDigit = true) : inHost c = true := by
  simp [inHost, isUnreserved, isAlphanumeric, Char.isAlphanum, h]

theorem inHost_of_isAsciiHostChar {c : Char} (h : isAsciiHostChar c = true) : inHost c = true := by
  simp only [isAsciiHostChar, Bool.or_eq_true, beq_iff_eq] at h
  obtain ((hlower | hdigit) | rfl) | rfl := h
  · have halpha : c.isAlpha = true := (congrArg (c.isUpper || ·) hlower).trans (Bool.or_true _)
    simp [inHost, isUnreserved, isAlphanumeric, Char.isAlphanum, halpha]
  · exact inHost_of_isDigit hdigit
  · decide
  · decide

theorem toNat_lt_of_inHost {c : Char} (h : inHost c = true) : c.toNat < 0x80 := by
  simp only [inHost, isUnreserved, isAlphanumeric, Bool.or_eq_true, List.contains_eq_mem,
    decide_eq_true_eq] at h
  obtain (halnum | hmark) | hmark := h
  · delta Char.isAlphanum Char.isAlpha Char.isUpper Char.isLower Char.isDigit at halnum
    simp only [Bool.or_eq_true, Bool.and_eq_true, decide_eq_true_eq] at halnum
    have hz : 'z'.val.toNat = 122 ∧ 'Z'.val.toNat = 90 ∧ '9'.val.toNat = 57 := by decide
    simp only [Char.toNat, UInt32.le_iff_toNat_le] at *
    omega
  · have hall : "-._~".toList.all (·.toNat < 0x80) = true := by decide
    exact of_decide_eq_true (List.all_eq_true.mp hall c hmark)
  · have hall : "!$&'()*+,;=\"`\x7b\x7d%|\\".toList.all (·.toNat < 0x80) = true := by decide
    exact of_decide_eq_true (List.all_eq_true.mp hall c hmark)

theorem inHost_of_isIpv4 (h : isIpv4 host = true) : ∀ c ∈ host.toList, inHost c = true := by
  intro c hc
  obtain rfl | ⟨p, hp, hcp⟩ := mem_pieces '.' hc
  · decide
  · simp only [isIpv4, Bool.and_eq_true, List.all_eq_true] at h
    have hpart := h.2 p hp
    simp only [isIpv4Part, Bool.and_eq_true, List.all_eq_true] at hpart
    exact inHost_of_isDigit (hpart.1.1.1.2 c hcp)

theorem splitAtGap_of_not_mem {cs : List Char} (h : ':' ∉ cs) (before : List Char) :
    splitAtGap before cs = none := by
  induction cs generalizing before with
  | nil => rfl
  | cons c cs ih =>
    obtain ⟨hc, hcs⟩ : ':' ≠ c ∧ ':' ∉ cs := by simpa using h
    rw [splitAtGap]
    · exact ih hcs _
    · simp [Ne.symm hc]

theorem colon_mem_of_isIpv6 (h : isIpv6 host = true) : ':' ∈ host.toList := by
  by_contra hno
  have haddress : ':' ∉ host.toList.takeWhile (· != '%') := fun hmem =>
    hno ((List.takeWhile_sublist _).subset hmem)
  replace h := (Bool.and_eq_true _ _ ▸ h : _ ∧ _).2
  generalize host.toList.takeWhile (· != '%') = cs at h haddress
  rw [isIpv6Address, splitAtGap_of_not_mem haddress] at h
  cases cs with
  | nil => simp [partsOf, groupCount?] at h
  | cons c cs =>
    have hparts : partsOf (c :: cs) = [String.ofList (c :: cs)] := by
      simp [partsOf, pieces, piecesFrom_of_not_mem haddress]
    have hcount (part : String) : groupCount? [part] ≠ some 8 := by
      simp only [groupCount?, List.reverse_singleton, List.all_nil]
      grind
    rw [hparts] at h
    exact hcount _ (eq_of_beq h)

inductive IsHost : String → Prop
  | plain {s : String} : (∀ c ∈ s.toList, inHost c = true) → IsHost s
  | grouped {s : String} : isIpv6 s = true → '@' ∉ s.toList → IsHost s

theorem hostText_of_isIpv6 (h : isIpv6 host = true) : hostText host = "[" ++ host ++ "]" :=
  if_pos (by simpa using colon_mem_of_isIpv6 h)

inductive Fenced : List Char → Prop
  | bare {cs : List Char} : ':' ∉ cs → cs.head? ≠ some '[' → Fenced cs
  | bracketed {cs : List Char} : Fenced ('[' :: (cs ++ [']']))

theorem not_mem_of_inHost {c : Char} (h : ∀ c ∈ host.toList, inHost c = true) (hc : inHost c = false) :
    c ∉ host.toList := fun hmem => by
  rw [h c hmem] at hc
  cases hc

theorem hostText_of_inHost (h : ∀ c ∈ host.toList, inHost c = true) : hostText host = host :=
  if_neg (by simpa using not_mem_of_inHost h (show inHost ':' = false by decide))

theorem IsHost.fenced (h : IsHost host) : Fenced (hostText host).toList ∧ '@' ∉ (hostText host).toList := by
  cases h with
  | plain h =>
    have hcolon := not_mem_of_inHost h (show inHost ':' = false by decide)
    have hbracket := not_mem_of_inHost h (show inHost '[' = false by decide)
    rw [hostText_of_inHost h]
    exact ⟨.bare hcolon fun hhead => hbracket (List.mem_of_mem_head? hhead),
      not_mem_of_inHost h (by decide)⟩
  | grouped h hat =>
    rw [hostText_of_isIpv6 h]
    have htext : ("[" ++ host ++ "]").toList = '[' :: (host.toList ++ [']']) := by simp
    rw [htext]
    exact ⟨.bracketed, by simpa using hat⟩

inductive Reads (host : String) : String → Prop
  | none : host = "" → Reads host ""
  | dotted : looksLikeIpv4 host = true → isIpv4 host = true → Reads host host
  | grouped {address : String} : host.toList = '[' :: (address.toList ++ [']']) →
      isIpv6 address = true → Reads host address
  | name : host ≠ "" → isBracketed host = false → Reads host (percentEncode inHost (asciiLower host))
  | foreign (name : AsciiHost) : isBracketed host = false → host.toList.all (·.toNat < 0x80) = false →
      Reads host name.text

theorem eq_bracketed_of_isBracketed (h : isBracketed host = true) :
    host.toList = '[' :: ((host.toList.drop 1).dropLast ++ [']']) := by
  simp only [isBracketed, Bool.and_eq_true, decide_eq_true_eq, beq_iff_eq] at h
  obtain ⟨⟨hlength, hhead⟩, hlast⟩ := h
  rw [← String.length_toList] at hlength
  generalize host.toList = cs at hlength hhead hlast ⊢
  cases cs with
  | nil => cases hhead
  | cons c cs =>
    obtain rfl : c = '[' := by simpa using hhead
    have hne : cs ≠ [] := by
      rintro rfl
      simp at hlength
    have hend : cs.getLast hne = ']' := by
      rw [List.getLast?_cons_of_ne_nil hne, List.getLast?_eq_some_getLast hne] at hlast
      exact Option.some.inj hlast
    rw [List.drop_one, List.tail_cons, ← hend, List.dropLast_append_getLast]

theorem reads_of_encodeHost (h : encodeHost names host = .ok host') : Reads host host' := by
  unfold encodeHost at h
  split at h
  · next hempty =>
    cases h
    exact .none hempty
  split at h
  · next hlooks =>
    split at h
    · next hquad =>
      obtain rfl := Except.ok.inj h
      exact .dotted hlooks hquad
    · cases h
  split at h
  · next hbracketed =>
    dsimp only at h
    split at h
    · next haddress =>
      obtain rfl := Except.ok.inj h
      exact .grouped (by simpa using eq_bracketed_of_isBracketed hbracketed) haddress
    · cases h
  split at h
  · next hempty _ hbracketed _ =>
    obtain rfl := Except.ok.inj h
    exact .name hempty (Bool.eq_false_iff.2 hbracketed)
  · next _ _ hbracketed hascii =>
    split at h
    · next name _ =>
      obtain rfl := Except.ok.inj h
      exact .foreign name (Bool.eq_false_iff.2 hbracketed) (Bool.eq_false_iff.2 hascii)
    · cases h

theorem Reads.isHost (h : Reads host host') (hat : '@' ∉ host.toList) : IsHost host' := by
  cases h with
  | none => exact .plain (by simp)
  | dotted _ hquad => exact .plain (inHost_of_isIpv4 hquad)
  | grouped hhost haddress => exact .grouped haddress fun hmem => hat (by simp [hhost, hmem])
  | name => exact .plain fun c => inHost_of_mem_percentEncode
  | foreign name => exact .plain fun c hc => inHost_of_isAsciiHostChar (name.ascii c hc)

theorem Reads.asciiLower_of_inHost (hhost : ∀ c ∈ host.toList, inHost c = true)
    (h : Reads host host') : asciiLower host' = asciiLower host := by
  cases h with
  | none hempty => rw [hempty]
  | dotted => rfl
  | grouped htext =>
    exact absurd (htext ▸ List.mem_cons_self) (not_mem_of_inHost hhost (show inHost '[' = false by decide))
  | name =>
    rw [percentEncode_eq_self, asciiLower_asciiLower]
    intro c hc
    obtain ⟨d, hd, rfl⟩ : ∃ d ∈ host.toList, d.toLower = c := by simpa [asciiLower] using hc
    exact inHost_toLower (hhost d hd)
  | foreign _ _ hascii =>
    have hall : host.toList.all (·.toNat < 0x80) = true :=
      List.all_eq_true.2 fun c hc => decide_eq_true (toNat_lt_of_inHost (hhost c hc))
    rw [hall] at hascii
    cases hascii

theorem looksLikeIpv4_brackets (s : String) : looksLikeIpv4 ("[" ++ s ++ "]") = false := by
  have hnil (cs : List Char) : cs.foldl quadPlaces [] = [] := by
    induction cs with
    | nil => rfl
    | cons c cs ih => exact ih
  have hfirst : quadPlaces [0] '[' = [] := by decide
  simp [looksLikeIpv4, hfirst, hnil]

theorem isBracketed_brackets (s : String) : isBracketed ("[" ++ s ++ "]") = true := by
  simp [isBracketed, ← String.length_toList, List.getLast?_cons]

theorem Reads.asciiLower_eq (hhost : IsHost host) (h : Reads (hostText host) host') :
    asciiLower host' = asciiLower host := by
  cases hhost with
  | plain hall => exact (hostText_of_inHost hall ▸ h).asciiLower_of_inHost hall
  | grouped hgroups =>
    rw [hostText_of_isIpv6 hgroups] at h
    cases h with
    | none hempty => simp at hempty
    | dotted hlooks => simp [looksLikeIpv4_brackets] at hlooks
    | grouped htext =>
      obtain rfl : host = host' := String.toList_inj.1 (by simpa using htext)
      rfl
    | name _ hbracketed => simp [isBracketed_brackets] at hbracketed
    | foreign _ hbracketed => simp [isBracketed_brackets] at hbracketed

end Hosts

section Authorities

variable {names : HostNames} {host : String} {u v : Url}

def portDigits (port : Option Int) : String := match port with | some n => toString n | none => ""

def portText (port : Option Int) : String := match port with | some n => ":" ++ toString n | none => ""

theorem netloc_eq (u : Url) : u.netloc = hostText u.host ++ portText u.port := rfl

theorem portText_cases (port : Option Int) :
    (portText port).toList = [] ∧ portDigits port = "" ∨
      (portText port).toList = ':' :: (portDigits port).toList := by
  cases port with
  | none => exact .inl ⟨rfl, rfl⟩
  | some n => exact .inr (by simp [portText, portDigits])

theorem not_mem_portText {c : Char} (port : Option Int) (hcolon : c ≠ ':') (hminus : c ≠ '-')
    (hdigit : c.isDigit = false) : c ∉ (portText port).toList := by
  intro hc
  obtain ⟨hnil, -⟩ | hcons := portText_cases port
  · simp [hnil] at hc
  · cases port with
    | none => simp [portText] at hc
    | some n =>
      have hmem : c ∈ Json.minus (decide (n < 0)) ++ Nat.toDigits 10 n.natAbs := by
        rw [hcons, portDigits, Json.toList_toString_int] at hc
        exact (List.mem_cons.1 hc).resolve_left hcolon
      obtain h | h := List.mem_append.1 hmem
      · rw [Json.minus] at h
        split at h <;> simp_all
      · rw [Numeral.isDigit_of_mem_toDigits h] at hdigit
        cases hdigit

theorem splitAuthority_append {port : Option Int} (hhost : Fenced host.toList)
    (hat : '@' ∉ host.toList) :
    splitAuthority (host ++ portText port) = ("", host, portDigits port) := by
  have hplain : ∀ c ∈ (host.toList ++ (portText port).toList).reverse, (c != '@') = true := by
    intro c hc
    have hport := not_mem_portText (c := '@') port (by decide) (by decide) (by decide)
    obtain hc | hc := List.mem_append.1 (List.mem_reverse.1 hc)
    · exact bne_iff_ne.2 (ne_of_mem_of_not_mem hc hat)
    · exact bne_iff_ne.2 (ne_of_mem_of_not_mem hc hport)
  have hparts := portText_cases port
  rw [splitAuthority, String.toList_append]
  simp only [List.dropWhile_eq_nil_iff.2 hplain, List.takeWhile_eq_self_iff.2 hplain,
    List.reverse_reverse, List.drop_nil, List.reverse_nil]
  -- a colon of the host is within brackets, and none of the port's digits is a bracket
  have hcut : (if (host.toList ++ (portText port).toList).head? = some '[' ∧
      (host.toList ++ (portText port).toList).contains ']' then
        ((host.toList ++ (portText port).toList).reverse.dropWhile (· != ']')).reverse
      else (host.toList ++ (portText port).toList).takeWhile (· != ':')) = host.toList := by
    generalize host.toList = cs at hhost
    cases hhost with
    | bare hcolon hhead =>
      have hfree : ∀ c ∈ cs, (c != ':') = true := fun c hc => bne_iff_ne.2 (ne_of_mem_of_not_mem hc hcolon)
      rw [if_neg, List.takeWhile_append_of_pos hfree]
      · obtain ⟨hnil, -⟩ | hcons := hparts <;> simp [*]
      · rintro ⟨hopen, -⟩
        cases cs with
        | nil => obtain ⟨hnil, -⟩ | hcons := hparts <;> simp_all
        | cons c cs => simp_all
    | @bracketed cs =>
      have hbracket := not_mem_portText (c := ']') port (by decide) (by decide) (by decide)
      have hfree : ∀ c ∈ (portText port).toList.reverse, (c != ']') = true := fun c hc =>
        bne_iff_ne.2 (ne_of_mem_of_not_mem (List.mem_reverse.1 hc) hbracket)
      rw [if_pos (by simp), List.reverse_append, List.dropWhile_append_of_pos hfree]
      simp
  rw [hcut]
  obtain ⟨hnil, hdigits⟩ | hcons := hparts
  · simp [hnil, hdigits]
  · simp [hcons]

theorem or_normalizePort {port port' : Option Int} {scheme : String}
    (h : normalizePort (portDigits port) scheme = .ok port') :
    port'.or (defaultPort? scheme) = port.or (defaultPort? scheme) := by
  cases port with
  | none =>
    obtain rfl : none = port' := by simpa [portDigits, normalizePort] using h
    rfl
  | some n =>
    unfold normalizePort at h
    split at h
    · next hempty =>
      have hlist := congrArg String.toList hempty
      rw [portDigits, Json.toList_toString_int, String.toList_empty, List.append_eq_nil_iff] at hlist
      exact absurd hlist.2 Nat.toDigits_ne_nil
    split at h
    · next m hm =>
      obtain rfl : m = n := Numeral.int_toString hm
      split at h
      · next hdefault =>
        cases h
        exact hdefault.symm
      · cases h
        rfl
    · cases h

structure MadeOf (given authority : String) (u : Url) : Prop where
  scheme : u.scheme = asciiLower given
  userinfo : u.userinfo = percentEncode inUserinfo (splitAuthority authority).1
  host : Reads (splitAuthority authority).2.1 u.host
  port : normalizePort (splitAuthority authority).2.2 given = .ok u.port

theorem madeOf_ofParts {scheme authority path : String} {query fragment : Option String}
    (h : ofParts names scheme authority none path query fragment = .ok u) : MadeOf scheme authority u := by
  unfold ofParts at h
  rcases hsplit : splitAuthority authority with ⟨userinfo, host, port⟩
  simp only [hsplit] at h
  obtain ⟨host', hhost, h⟩ := exists_of_bind_eq_ok h
  obtain ⟨port', hport, h⟩ := exists_of_bind_eq_ok h
  obtain ⟨_, -, h⟩ := exists_of_bind_eq_ok h
  obtain rfl := Except.ok.inj h
  exact ⟨rfl, by rw [hsplit], by simpa only [hsplit, Option.getD_none] using reads_of_encodeHost hhost,
    by simpa only [hsplit] using hport⟩

structure Plain (u : Url) : Prop where
  userinfo : u.userinfo = ""
  scheme : asciiLower u.scheme = u.scheme
  host : IsHost u.host

structure Origin where
  scheme : String
  host : String
  port : Option Int
deriving DecidableEq

def origin (u : Url) : Origin := ⟨u.scheme, asciiLower u.host, u.port.or (defaultPort? u.scheme)⟩

theorem at_not_mem_splitAuthority (s : String) : '@' ∉ (splitAuthority s).2.1.toList := by
  intro hmem
  rw [splitAuthority, String.toList_ofList] at hmem
  have hrest : '@' ∈ (s.toList.reverse.takeWhile (· != '@')).reverse := by
    split at hmem
    · have hsub := (List.dropWhile_sublist (l := (s.toList.reverse.takeWhile (· != '@')).reverse.reverse)
        (· != ']')).subset
      exact List.mem_reverse.1 (hsub (List.mem_reverse.1 hmem))
    · exact (List.takeWhile_sublist _).subset hmem
  simpa using List.mem_takeWhile_imp (List.mem_reverse.1 hrest)

theorem MadeOf.plain {scheme authority : String} (h : MadeOf scheme authority u)
    (huser : u.userinfo = "") : u.Plain :=
  ⟨huser, by rw [h.scheme, asciiLower_asciiLower], h.host.isHost (at_not_mem_splitAuthority authority)⟩

theorem authority_of_plain (h : u.Plain) : u.authority = hostText u.host ++ portText u.port := by
  rw [authority, if_pos h.userinfo, String.empty_append, netloc_eq]

theorem MadeOf.origin_eq (hu : u.Plain) (h : MadeOf u.scheme u.authority v) :
    v.Plain ∧ v.origin = u.origin := by
  obtain ⟨hfenced, hat⟩ := hu.host.fenced
  have hsplit : splitAuthority u.authority = ("", hostText u.host, portDigits u.port) := by
    rw [authority_of_plain hu, splitAuthority_append hfenced hat]
  obtain ⟨hscheme, huser, hhost, hport⟩ := h
  simp only [hsplit] at huser hhost hport
  have hsame : v.scheme = u.scheme := hscheme.trans hu.scheme
  refine ⟨⟨huser, by rw [hsame, hu.scheme], hhost.isHost hat⟩, ?_⟩
  rw [origin, origin, hsame, hhost.asciiLower_eq hu.host, or_normalizePort hport]

end Authorities

section Requests

variable {names : HostNames} {u v server : Url}

theorem exists_madeOf_parse {s : String} (h : parse names s = .ok u) :
    ∃ authority, MadeOf (String.ofList (splitScheme s.toList).1) authority u := by
  unfold parse at h
  rcases hsplit : splitScheme s.toList with ⟨scheme, rest⟩
  simp only [hsplit] at h
  split at h
  · cases h
  obtain ⟨_, -, h⟩ := exists_of_bind_eq_ok h
  exact ⟨_, madeOf_ofParts h⟩

theorem plain_of_parse {s : String} (h : parse names s = .ok u) (huser : u.userinfo = "") : u.Plain := by
  obtain ⟨authority, hmade⟩ := exists_madeOf_parse h
  exact hmade.plain huser

theorem scheme_of_rooted {s : String} {rest : List Char} (hs : s.toList = '/' :: rest)
    (h : parse names s = .ok u) : u.scheme = "" := by
  obtain ⟨authority, hmade⟩ := exists_madeOf_parse h
  have hslash : isSchemeChar '/' = false := by decide
  have hnone : (splitScheme ('/' :: rest)).1 = [] := by simp [splitScheme, hslash]
  rw [hmade.scheme, hs, hnone]
  rfl

theorem madeOf_remade {path : String} {query fragment : Option String}
    (h : u.remade names none path query fragment = .ok v) : MadeOf u.scheme u.authority v := by
  obtain ⟨_, -, h⟩ := exists_of_bind_eq_ok h
  obtain ⟨_, -, h⟩ := exists_of_bind_eq_ok h
  obtain ⟨_, -, h⟩ := exists_of_bind_eq_ok h
  obtain ⟨_, -, h⟩ := exists_of_bind_eq_ok h
  obtain ⟨_, -, h⟩ := exists_of_bind_eq_ok h
  obtain ⟨_, -, h⟩ := exists_of_bind_eq_ok h
  exact madeOf_ofParts h

theorem madeOf_withTarget {target : String} (h : u.withTarget names target = .ok v) :
    MadeOf u.scheme u.authority v := by
  unfold withTarget at h
  rcases splitOptional '?' target.toList with ⟨path, query⟩
  exact madeOf_remade h

theorem origin_of_withTarget {target : String} (hu : u.Plain) (h : u.withTarget names target = .ok v) :
    v.Plain ∧ v.origin = u.origin :=
  (madeOf_withTarget h).origin_eq hu

theorem origin_of_base {s : String} (hu : u.Plain) (hparse : parse names s = .ok u)
    (h : base names s = .ok v) :
    v.Plain ∧ v.origin = u.origin := by
  obtain ⟨u', hu', h⟩ := exists_of_bind_eq_ok h
  obtain rfl : u = u' := Except.ok.inj (hparse.symm.trans hu')
  split at h
  · cases h
    exact ⟨hu, rfl⟩
  · exact origin_of_withTarget hu h

theorem origin_of_resolve {s : String} {rest : List Char} (hserver : server.Plain)
    (hs : s.toList = '/' :: rest) (h : server.resolve names s = .ok v) :
    v.Plain ∧ v.origin = server.origin := by
  obtain ⟨r, hparse, h⟩ := exists_of_bind_eq_ok h
  have hrelative : r.isRelative = true := by simp [isRelative, scheme_of_rooted hs hparse]
  rw [if_pos hrelative] at h
  exact origin_of_withTarget hserver h

theorem origin_of_withQuery {params : List (String × String)} (hu : u.Plain)
    (h : u.withQuery params = .ok v) : v.Plain ∧ v.origin = u.origin := by
  unfold withQuery at h
  split at h
  · cases h
    exact ⟨⟨hu.userinfo, hu.scheme, hu.host⟩, rfl⟩
  · obtain ⟨_, -, h⟩ := exists_of_bind_eq_ok h
    cases h
    exact ⟨⟨hu.userinfo, hu.scheme, hu.host⟩, rfl⟩

end Requests

end Url

end Web

end ClusterHealth

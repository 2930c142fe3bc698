import ClusterHealth.CommandLine.Run
import ClusterHealth.Proofs.Settings.Acceptance
import ClusterHealth.Proofs.Text.CuttingLaws

/-!
Transports of accepted settings. Settings and transport trim the same texts, but not in the same order,
and the second works on what the first has left: that makes a transport of all accepted settings but
those whose endpoint is slashes alone or whose path is blanks between slashes.
-/

namespace ClusterHealth

open ClusterHealth.Admin ClusterHealth.Text ClusterHealth.Web

section Slashes

variable {s : String}

def OnlySlashes (s : String) : Prop := ∀ c ∈ s.toList, c = '/'

def SlashesAroundBlanks (s : String) : Prop :=
  ∃ before blanks after, s.toList = before ++ blanks ++ after ∧ before ≠ [] ∧ blanks ≠ [] ∧ after ≠ [] ∧
    (∀ c ∈ before, c = '/') ∧ (∀ c ∈ blanks, isBlank c = true) ∧ ∀ c ∈ after, c = '/'

theorem onlySlashes_iff_stripRightChar : OnlySlashes s ↔ stripRightChar '/' s = "" :=
  stripRightChar_eq_empty_iff.symm

theorem onlySlashes_iff_trimSlashes : OnlySlashes s ↔ trimSlashes s = "" := by
  rw [trimSlashes, stripRightChar_eq_empty_iff, stripLeftChar, String.toList_ofList, OnlySlashes, trimLeft]
  refine ⟨fun h c hc => h c ((List.dropWhile_sublist _).subset hc), fun h c hc => ?_⟩
  rw [← List.takeWhile_append_dropWhile (p := (· == '/')) (l := s.toList), List.mem_append] at hc
  obtain hc | hc := hc
  · simpa using List.mem_takeWhile_imp hc
  · exact h c hc

theorem ne_slash_of_isBlank {c : Char} (h : isBlank c = true) : c ≠ '/' := by
  rintro rfl
  revert h
  decide

end Slashes

namespace Admin

variable {c : Config} {e : ConfigError}

def guards : List ConfigError := [.blankEndpoint, .blankPrefix, .timeoutNotPositive]

/-- What the guards object to. Each of them is reached only if those before it were passed. -/
inductive Config.Unfit (c : Config) : ConfigError → Prop
  | endpoint : OnlySlashes (strip c.endpoint) → c.Unfit .blankEndpoint
  | path : ¬ OnlySlashes (strip c.endpoint) → OnlySlashes (strip c.apiPrefix) → c.Unfit .blankPrefix
  | timeout : ¬ OnlySlashes (strip c.endpoint) → ¬ OnlySlashes (strip c.apiPrefix) →
      c.timeout.atMostZero = true → c.Unfit .timeoutNotPositive

theorem slash_append_eq_iff (s : String) : "/" ++ trimSlashes s = "/" ↔ OnlySlashes s := by
  rw [onlySlashes_iff_trimSlashes, String.append_eq_left_iff]

theorem Config.Unfit.ofConfig (h : c.Unfit e) : Transport.ofConfig c = .error e := by
  cases h with
  | endpoint hendpoint =>
    simp only [Transport.ofConfig, ← onlySlashes_iff_stripRightChar, hendpoint, if_true]
    rfl
  | path hendpoint hpath =>
    simp only [Transport.ofConfig, ← onlySlashes_iff_stripRightChar, slash_append_eq_iff, hendpoint,
      hpath, if_true, if_false]
    rfl
  | timeout hendpoint hpath htimeout =>
    simp only [Transport.ofConfig, ← onlySlashes_iff_stripRightChar, slash_append_eq_iff, hendpoint,
      hpath, htimeout, if_true, if_false]
    rfl

theorem unusable_of_not_unfit (hfit : ∀ e, ¬ c.Unfit e) (h : Transport.ofConfig c = .error e) :
    ∃ f, e = .unusable f := by
  have hendpoint : ¬ OnlySlashes (strip c.endpoint) := fun h => hfit _ (.endpoint h)
  have hpath : ¬ OnlySlashes (strip c.apiPrefix) := fun h => hfit _ (.path hendpoint h)
  have htimeout : c.timeout.atMostZero = false :=
    Bool.eq_false_iff.2 fun h => hfit _ (.timeout hendpoint hpath h)
  simp only [Transport.ofConfig, ← onlySlashes_iff_stripRightChar, slash_append_eq_iff, hendpoint,
    hpath, htimeout, if_false, Bool.false_eq_true] at h
  cases hserver : Url.base c.hosts (stripRightChar '/' (strip c.endpoint)) with
  | error u =>
    rw [hserver] at h
    cases h
    exact ⟨_, rfl⟩
  | ok server =>
    rw [hserver] at h
    cases hheader : ((Transport.tokenHeader? c.token).map checkAscii).getD (.ok ()) with
    | error f =>
      rw [hheader] at h
      cases h
      exact ⟨_, rfl⟩
    | ok u =>
      rw [hheader] at h
      cases h

theorem ofConfig_eq_error_iff (he : e ∈ guards) : Transport.ofConfig c = .error e ↔ c.Unfit e := by
  refine ⟨fun h => ?_, Config.Unfit.ofConfig⟩
  by_cases hfit : ∃ e', c.Unfit e'
  · obtain ⟨e', he'⟩ := hfit
    cases he'.ofConfig.symm.trans h
    exact he'
  · obtain ⟨f, rfl⟩ := unusable_of_not_unfit (not_exists.1 hfit) h
    simp [guards] at he

end Admin

namespace Settings

variable {environment : Entries String} {file : Option String} {hostname : Answer AnyText}
  {given : String → Option String} {name : AnyText} {text path : String} {s : Settings}

theorem rootedPath_of_eq_ok (h : rootedPath text = .ok path) :
    path = stripRightChar '/' (strip text) ∧ ∃ cs, path.toList = '/' :: cs := by
  unfold rootedPath at h
  dsimp only at h
  split at h
  · next hstart =>
    obtain rfl := Except.ok.inj h
    refine ⟨rfl, ?_⟩
    rw [startsWith, List.isPrefixOf_iff_prefix] at hstart
    obtain ⟨cs, hcs⟩ := hstart
    exact ⟨cs, hcs.symm⟩
  · cases h

/-- What is left of a path that was accepted: slashes are trimmed behind it first, then blanks. -/
theorem toList_of_rootedPath (h : rootedPath text = .ok path) :
    path.toList = trimRight (· == '/') (strip text).toList ∧
      (strip path).toList = trimRight isBlank path.toList := by
  obtain ⟨hpath, cs, hcs⟩ := rootedPath_of_eq_ok h
  refine ⟨by rw [hpath, toList_stripRightChar], ?_⟩
  rw [strip, String.toList_ofList, trimBy, trimLeft_eq_self]
  intro c hc
  obtain rfl : '/' = c := by simpa [hcs] using hc
  exact Bool.eq_false_iff.2 fun hblank => ne_slash_of_isBlank hblank rfl

theorem slashesAroundBlanks_of_onlySlashes (h : rootedPath text = .ok path)
    (honly : OnlySlashes (strip path)) : SlashesAroundBlanks (strip text) := by
  obtain ⟨-, cs, hcs⟩ := rootedPath_of_eq_ok h
  obtain ⟨hpath, hstrip⟩ := toList_of_rootedPath h
  obtain ⟨after, hafter, hslashes⟩ := exists_append_trimRight (· == '/') (strip text).toList
  obtain ⟨blanks, hblanks, hblank⟩ := exists_append_trimRight isBlank path.toList
  rw [← hpath] at hafter
  rw [OnlySlashes, hstrip] at honly
  generalize trimRight isBlank path.toList = before at honly hblanks
  have hbefore : before ≠ [] := by
    rintro rfl
    rw [List.nil_append, hcs] at hblanks
    exact ne_slash_of_isBlank (hblank '/' (hblanks ▸ List.mem_cons_self)) rfl
  have hnonempty : blanks ≠ [] := by
    rintro rfl
    rw [List.append_nil] at hblanks
    have hlast := last_trimRight (· == '/') (strip text).toList
    rw [← hpath, hblanks] at hlast
    simpa [honly _ (List.getLast_mem hbefore)] using hlast _ (List.getLast?_eq_some_getLast hbefore)
  -- a text that was stripped does not end in a blank, so slashes must follow
  have hafter' : after ≠ [] := by
    rintro rfl
    have hlast := (trimmed_strip text).last
    rw [hafter, hblanks, List.append_nil, List.getLast?_append_of_ne_nil _ hnonempty] at hlast
    have hfull := hlast _ (List.getLast?_eq_some_getLast hnonempty)
    rw [hblank _ (List.getLast_mem hnonempty)] at hfull
    cases hfull
  exact ⟨before, blanks, after, by rw [← hblanks, hafter], hbefore, hnonempty, hafter', honly, hblank,
    by simpa using hslashes⟩

theorem onlySlashes_of_slashesAroundBlanks (h : rootedPath text = .ok path)
    (haround : SlashesAroundBlanks (strip text)) : OnlySlashes (strip path) := by
  obtain ⟨before, blanks, after, htext, -, hnonempty, -, honly, hblank, hslashes⟩ := haround
  obtain ⟨hpath, hstrip⟩ := toList_of_rootedPath h
  have hkept : path.toList = before ++ blanks := by
    rw [hpath, htext, trimRight_append (by simpa using hslashes), trimRight_eq_self]
    intro c hc
    rw [List.getLast?_append_of_ne_nil _ hnonempty] at hc
    exact beq_false_of_ne (ne_slash_of_isBlank (hblank c (List.mem_of_getLast? hc)))
  rw [OnlySlashes, hstrip, hkept, trimRight_append hblank, trimRight_eq_self]
  · exact honly
  · exact fun c hc => Bool.eq_false_iff.2 fun hb =>
      ne_slash_of_isBlank hb (honly c (List.mem_of_getLast? hc))

inductive Unfit (endpoint path : String) : ConfigError → Prop
  | endpoint : OnlySlashes endpoint → Unfit endpoint path .blankEndpoint
  | path : ¬ OnlySlashes endpoint → SlashesAroundBlanks path → Unfit endpoint path .blankPrefix

def endpointText (given : String → Option String) : String :=
  strip ((given "admin_endpoint_url").getD "http://127.0.0.1:9000")

def pathText (given : String → Option String) : String :=
  strip ((given "admin_api_prefix").getD "/minio/admin/v3")

theorem Accepted.unfit_iff (h : Accepted given name s) (hosts : HostNames) (e : ConfigError) :
    (CommandLine.config hosts s).Unfit e ↔ Unfit (endpointText given) (pathText given) e := by
  have hendpoint : OnlySlashes (strip s.endpoint) ↔ OnlySlashes (endpointText given) := by
    rw [(nonBlank_of_eq_ok h.endpoint).1, strip_strip, endpointText]
  have hpath : OnlySlashes (strip s.apiPrefix) ↔ SlashesAroundBlanks (pathText given) :=
    ⟨slashesAroundBlanks_of_onlySlashes h.apiPrefix, onlySlashes_of_slashesAroundBlanks h.apiPrefix⟩
  have htimeout : Binary64.le s.timeout 0 = false :=
    Binary64.le_eq_false_of_lt h.times.2.positive
  constructor
  · rintro (h | ⟨h, h'⟩ | ⟨-, -, h⟩)
    · exact .endpoint (hendpoint.1 h)
    · exact .path (mt hendpoint.2 h) (hpath.1 h')
    · exact absurd (h.symm.trans htimeout) nofun
  · rintro (h | ⟨h, h'⟩)
    · exact .endpoint (hendpoint.2 h)
    · exact .path (mt hendpoint.1 h) (hpath.2 h')

theorem transport_guard_iff {e : ConfigError} (h : load environment file hostname = .ok s)
    (hosts : HostNames) (he : e ∈ guards) :
    Transport.ofConfig (CommandLine.config hosts s) = .error e ↔
      Unfit (endpointText (Settings.given environment file))
        (pathText (Settings.given environment file)) e := by
  rw [ofConfig_eq_error_iff he, (accepted_of_load h).unfit_iff]

theorem transport_guard_blank_path : ∃ s,
    load [("ADMIN_API_PREFIX", "/ /")] none (.ok "node-1") = .ok s ∧ s.apiPrefix = "/ " ∧
      Transport.ofConfig (CommandLine.config .plain s) = .error .blankPrefix := by
  obtain ⟨s, hload, hpath⟩ := exists_of_toOption_map (f := apiPrefix) (b := "/ ")
    (x := load [("ADMIN_API_PREFIX", "/ /")] none (.ok "node-1")) (by decide +kernel)
  refine ⟨s, hload, hpath, (transport_guard_iff hload .plain (by decide)).2 (.path ?_ ?_)⟩
  · rw [onlySlashes_iff_stripRightChar]
    decide +kernel
  · exact ⟨['/'], [' '], ['/'], by decide +kernel, by simp, by simp, by simp, by simp,
      List.forall_mem_singleton.2 (by decide), by simp⟩

theorem endpoint_of_slashes : ∃ s,
    load [("ADMIN_ENDPOINT_URL", "/")] none (.ok "node-1") = .ok s ∧
      Transport.ofConfig (CommandLine.config .plain s) = .error .blankEndpoint := by
  obtain ⟨s, hload, hendpoint⟩ := exists_of_toOption_map (f := endpoint) (b := "/")
    (x := load [("ADMIN_ENDPOINT_URL", "/")] none (.ok "node-1")) (by decide +kernel)
  refine ⟨s, hload, Config.Unfit.ofConfig (.endpoint ?_)⟩
  change OnlySlashes (strip s.endpoint)
  rw [hendpoint, onlySlashes_iff_stripRightChar]
  decide +kernel

end Settings

end ClusterHealth

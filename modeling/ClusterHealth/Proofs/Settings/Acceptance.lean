import ClusterHealth.Proofs.Report.Checking
import ClusterHealth.Settings.Basic

namespace ClusterHealth

section Checks

variable {x : Checked α} {f : Checked (α → β)} {r : Except FieldErrorKind α} {path p : List String}

theorem placed_eq_ok_iff {a : α} : placed path r = .ok a ↔ r = .ok a := by
  cases r <;> simp [placed, refuse]

theorem alongside_eq_ok_iff {b : β} :
    alongside x f = .ok b ↔ ∃ a g, x = .ok a ∧ f = .ok g ∧ g a = b := by
  rw [alongside, both_eq_ok_iff]
  constructor
  · rintro ⟨g, a, hf, hx, rfl⟩
    exact ⟨a, g, hx, hf, rfl⟩
  · rintro ⟨a, g, hx, hf, rfl⟩
    exact ⟨g, a, hf, hx, rfl⟩

def Checked.Refuses (x : Checked α) (p : List String) : Prop :=
  ∃ es, x = .error es ∧ ∃ e ∈ es, e.path = p

@[simp] theorem not_refuses_ok (a : α) : ¬ Checked.Refuses (.ok a) p := by
  simp [Checked.Refuses]

@[simp] theorem refuses_placed_iff :
    (placed path r).Refuses p ↔ path = p ∧ ∃ k, r = .error k := by
  cases r <;> simp [Checked.Refuses, placed, refuse]

@[simp] theorem refuses_alongside_iff :
    (alongside x f).Refuses p ↔ f.Refuses p ∨ x.Refuses p := by
  cases f <;> cases x <;> simp [Checked.Refuses, alongside, both, or_and_right, exists_or]

end Checks

namespace Binary64

variable {x y : Binary64}

theorem zero_eq : (0 : Binary64) = .signed false ⟨0, Nat.succ_pos _⟩ := rfl

theorem le_iff_of_positive (hx : le 0 x = true) (hy : lt 0 y = true) :
    le x y = true ↔ lt y x = false := by
  cases x with
  | nan => cases hx
  | signed s r =>
    cases y with
    | nan => cases hy
    | signed t u => simp [le, lt]

theorem le_eq_false_of_lt (h : lt 0 x = true) : le x 0 = false := by
  cases x with
  | nan => rfl
  | signed s r =>
    rw [zero_eq] at h ⊢
    simpa [le, lt] using h

end Binary64

namespace Settings

open ClusterHealth.Numeral

variable {environment : Entries String} {file : Option String} {hostname : Answer AnyText}
  {given : String → Option String} {name : AnyText} {s : Settings}

structure Accepted (given : String → Option String) (hostname : AnyText) (s : Settings) : Prop where
  environmentName : (given "environment_name").getD "development" = s.environmentName
  nodeAddress : ownAddress (given "node_address") hostname = .ok s.nodeAddress
  endpoint : nonBlank ((given "admin_endpoint_url").getD "http://127.0.0.1:9000") = .ok s.endpoint
  apiPrefix : rootedPath ((given "admin_api_prefix").getD "/minio/admin/v3") = .ok s.apiPrefix
  accessToken : given "admin_access_token" = s.accessToken
  verifyTls : switch ((given "admin_verify_tls").getD "true") = .ok s.verifyTls
  deadline : deadlineSeconds ((given "health_info_deadline_seconds").getD "3600.0") = .ok s.deadline
  timeout : timeoutSeconds (.ok s.deadline)
    ((given "admin_request_timeout_seconds").getD "3900.0") = .ok s.timeout
  host : (given "application_host").getD "0.0.0.0" = s.host
  port : portNumber ((given "application_port").getD "8080") = .ok s.port
  logLevel : levelName ((given "log_level").getD "INFO") = .ok s.logLevel
  logJson : switch ((given "log_json").getD "false") = .ok s.logJson

theorem nonBlank_of_eq_ok {text t : String} (h : nonBlank text = .ok t) :
    t = Text.strip text ∧ t ≠ "" := by
  unfold nonBlank at h
  split at h
  · cases h
  split at h
  · cases h
  · next hne =>
    obtain rfl := Except.ok.inj h
    exact ⟨rfl, hne⟩

theorem ownAddress_of_eq_ok {text : Option String} {t : String} (h : ownAddress text name = .ok t) :
    ∃ s, t = Text.strip s ∧ t ≠ "" := by
  unfold ownAddress at h
  split at h
  · exact ⟨_, nonBlank_of_eq_ok h⟩
  · exact ⟨_, nonBlank_of_eq_ok h⟩
  · cases h

theorem accepted_of_ofTexts (h : ofTexts given name = .ok s) : Accepted given name s := by
  simp only [ofTexts, alongside_eq_ok_iff, placed_eq_ok_iff, Except.ok.injEq] at h
  obtain ⟨logJson, _, hlogJson, h, rfl⟩ := h
  obtain ⟨logLevel, _, hlogLevel, h, rfl⟩ := h
  obtain ⟨port, _, hport, h, rfl⟩ := h
  obtain ⟨host, _, hhost, h, rfl⟩ := h
  obtain ⟨timeout, _, htimeout, h, rfl⟩ := h
  obtain ⟨deadline, _, hdeadline, h, rfl⟩ := h
  obtain ⟨verifyTls, _, hverifyTls, h, rfl⟩ := h
  obtain ⟨token, _, htoken, h, rfl⟩ := h
  obtain ⟨apiPrefix, _, hapiPrefix, h, rfl⟩ := h
  obtain ⟨endpoint, _, hendpoint, h, rfl⟩ := h
  obtain ⟨address, _, haddress, h, rfl⟩ := h
  obtain ⟨environmentName, _, henvironmentName, rfl, rfl⟩ := h
  rw [hdeadline] at htimeout
  exact ⟨henvironmentName, haddress, hendpoint, hapiPrefix, htoken, hverifyTls, hdeadline, htimeout,
    hhost, hport, hlogLevel, hlogJson⟩

theorem ofTexts_eq_ok_iff : ofTexts given name = .ok s ↔ Accepted given name s := by
  refine ⟨accepted_of_ofTexts, fun h => ?_⟩
  simp only [ofTexts, h.environmentName, h.nodeAddress, h.endpoint, h.apiPrefix, h.accessToken,
    h.verifyTls, h.deadline, h.timeout, h.host, h.port, h.logLevel, h.logJson, placed, alongside, both]

theorem load_cases (environment : Entries String) (file : Option String) (hostname : Answer AnyText) :
    (∃ f, hostname = .error f ∧ load environment file hostname = .error (.namelessHost f)) ∨
      load environment file hostname =
        (ofTexts (Settings.given environment file) (hostname.toOption.getD "")).mapError .invalid := by
  unfold load
  dsimp only
  split
  · next f _ => exact .inl ⟨f, rfl, rfl⟩
  · exact .inr rfl

theorem accepted_of_load (h : load environment file hostname = .ok s) :
    Accepted (Settings.given environment file) (hostname.toOption.getD "") s := by
  obtain ⟨f, -, hload⟩ | hload := load_cases environment file hostname
  · cases hload.symm.trans h
  · exact ofTexts_eq_ok_iff.1 (mapError_eq_ok_iff.1 (hload.symm.trans h))

theorem ofTexts_of_load_eq_invalid {es : List FieldError}
    (h : load environment file hostname = .error (.invalid es)) :
    ofTexts (Settings.given environment file) (hostname.toOption.getD "") = .error es := by
  obtain ⟨f, -, hload⟩ | hload := load_cases environment file hostname
  · cases hload.symm.trans h
  · obtain ⟨fs, hfs, hes⟩ := mapError_eq_error_iff.1 (hload.symm.trans h)
    cases hes
    exact hfs

section Seconds

variable {text : String} {x : Binary64}

structure Covers (deadline timeout : Binary64) : Prop where
  nonneg : Binary64.le 0 deadline = true
  covered : deadline.le timeout = true
  positive : Binary64.lt 0 timeout = true

theorem decimal_eq_ok_iff : decimal text = .ok x ↔ fieldFloat? text = some x := by
  unfold decimal
  split <;> simp_all

theorem deadlineSeconds_eq_ok_iff :
    deadlineSeconds text = .ok x ↔ fieldFloat? text = some x ∧ Binary64.le 0 x = true := by
  rw [← decimal_eq_ok_iff, deadlineSeconds]
  cases decimal text with
  | error k => simp [bind, Except.bind]
  | ok y =>
    by_cases hy : Binary64.le 0 y = true <;> by_cases hxy : y = x <;>
      simp_all [bind, Except.bind, pure, Except.pure, throw, throwThe, MonadExceptOf.throw]

theorem timeoutSeconds_eq_ok_iff {deadline : Binary64} (hdeadline : Binary64.le 0 deadline = true) :
    timeoutSeconds (.ok deadline) text = .ok x ↔ fieldFloat? text = some x ∧ Covers deadline x := by
  have hcovers (y : Binary64) : Covers deadline y ↔ Binary64.lt 0 y = true ∧ y.lt deadline = false := by
    constructor
    · intro h
      exact ⟨h.positive, (Binary64.le_iff_of_positive hdeadline h.positive).1 h.covered⟩
    · rintro ⟨hpositive, hlt⟩
      exact ⟨hdeadline, (Binary64.le_iff_of_positive hdeadline hpositive).2 hlt, hpositive⟩
  rw [hcovers, ← decimal_eq_ok_iff, timeoutSeconds]
  cases decimal text with
  | error k => simp [bind, Except.bind]
  | ok y =>
    by_cases hpositive : Binary64.lt 0 y = true <;> by_cases hlt : y.lt deadline = true <;>
      by_cases hxy : y = x <;>
      simp_all [bind, Except.bind, pure, Except.pure, throw, throwThe, MonadExceptOf.throw, Except.toOption]

def Times (given : String → Option String) (deadline timeout : Binary64) : Prop :=
  fieldFloat? ((given "health_info_deadline_seconds").getD "3600.0") = some deadline ∧
    fieldFloat? ((given "admin_request_timeout_seconds").getD "3900.0") = some timeout

theorem Accepted.times (h : Accepted given name s) :
    Times given s.deadline s.timeout ∧ Covers s.deadline s.timeout := by
  obtain ⟨hdeadline, hnonneg⟩ := deadlineSeconds_eq_ok_iff.1 h.deadline
  obtain ⟨htimeout, hcovers⟩ := (timeoutSeconds_eq_ok_iff hnonneg).1 h.timeout
  exact ⟨⟨hdeadline, htimeout⟩, hcovers⟩

theorem refuses_times_iff (given : String → Option String) (name : AnyText) :
    ((ofTexts given name).Refuses ["health_info_deadline_seconds"] ∨
      (ofTexts given name).Refuses ["admin_request_timeout_seconds"]) ↔
    ¬ ∃ deadline timeout, Times given deadline timeout ∧ Covers deadline timeout := by
  have hchecks : ((ofTexts given name).Refuses ["health_info_deadline_seconds"] ∨
      (ofTexts given name).Refuses ["admin_request_timeout_seconds"]) ↔
      (∃ k, deadlineSeconds ((given "health_info_deadline_seconds").getD "3600.0") = .error k) ∨
      ∃ k, timeoutSeconds (placed ["health_info_deadline_seconds"]
          (deadlineSeconds ((given "health_info_deadline_seconds").getD "3600.0")))
        ((given "admin_request_timeout_seconds").getD "3900.0") = .error k := by
    simp [ofTexts]
  rw [hchecks]
  -- the timeout is compared with the deadline that was accepted, so a refused one comes first
  cases hdeadline : deadlineSeconds ((given "health_info_deadline_seconds").getD "3600.0") with
  | error k =>
    refine iff_of_true (.inl ⟨k, rfl⟩) ?_
    rintro ⟨deadline, timeout, ⟨hread, -⟩, hcovers⟩
    rw [deadlineSeconds_eq_ok_iff.2 ⟨hread, hcovers.nonneg⟩] at hdeadline
    cases hdeadline
  | ok deadline =>
    obtain ⟨hread, hnonneg⟩ := deadlineSeconds_eq_ok_iff.1 hdeadline
    rw [or_iff_right (by simp), placed]
    cases htimeout : timeoutSeconds (.ok deadline)
        ((given "admin_request_timeout_seconds").getD "3900.0") with
    | error k =>
      refine iff_of_true ⟨k, rfl⟩ ?_
      rintro ⟨d, timeout, ⟨hd, ht⟩, hcovers⟩
      obtain rfl : deadline = d := Option.some.inj (hread.symm.trans hd)
      rw [(timeoutSeconds_eq_ok_iff hnonneg).2 ⟨ht, hcovers⟩] at htimeout
      cases htimeout
    | ok timeout =>
      obtain ⟨ht, hcovers⟩ := (timeoutSeconds_eq_ok_iff hnonneg).1 htimeout
      exact iff_of_false (by simp) (not_not_intro ⟨deadline, timeout, ⟨hread, ht⟩, hcovers⟩)

theorem timeout_covers_deadline (environment : Entries String) (file : Option String)
    (hostname : Answer AnyText) :
    (∀ s, load environment file hostname = .ok s →
      Times (Settings.given environment file) s.deadline s.timeout ∧ Covers s.deadline s.timeout) ∧
    ∀ es, load environment file hostname = .error (.invalid es) →
      ((∃ e ∈ es, e.path = ["health_info_deadline_seconds"] ∨
          e.path = ["admin_request_timeout_seconds"]) ↔
        ¬ ∃ deadline timeout, Times (Settings.given environment file) deadline timeout ∧
          Covers deadline timeout) := by
  refine ⟨fun s h => (accepted_of_load h).times, fun es h => ?_⟩
  have hchecked := ofTexts_of_load_eq_invalid h
  rw [← refuses_times_iff _ (hostname.toOption.getD ""), hchecked]
  simp [Checked.Refuses, and_or_left, exists_or]

theorem timeout_covers_deadline_unlimited : ∃ s,
    load [("HEALTH_INFO_DEADLINE_SECONDS", "-0.0"), ("ADMIN_REQUEST_TIMEOUT_SECONDS", "inf")] none
      (.ok "node-1") = .ok s ∧ s.timeout = .infinity false ∧ Covers s.deadline s.timeout := by
  obtain ⟨s, hload, htimeout⟩ := exists_of_toOption_map (f := timeout) (b := .infinity false)
    (x := load [("HEALTH_INFO_DEADLINE_SECONDS", "-0.0"), ("ADMIN_REQUEST_TIMEOUT_SECONDS", "inf")] none
      (.ok "node-1")) (by decide +kernel)
  exact ⟨s, hload, htimeout, ((timeout_covers_deadline _ _ _).1 s hload).2⟩

end Seconds

end Settings

end ClusterHealth

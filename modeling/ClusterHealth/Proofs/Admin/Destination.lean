import ClusterHealth.Proofs.Admin.Release
import ClusterHealth.Proofs.Settings.Building
import ClusterHealth.Proofs.Web.Origin

namespace ClusterHealth.Admin

open ClusterHealth.Text ClusterHealth.Web

namespace Transport

variable {c : Config} {t : Transport} {u : Url}

structure Configured (c : Config) (t : Transport) : Prop where
  hosts : t.hosts = c.hosts
  server : Url.base c.hosts (stripRightChar '/' (strip c.endpoint)) = .ok t.server
  apiPrefix : t.apiPrefix = "/" ++ trimSlashes (strip c.apiPrefix)
  below : trimSlashes (strip c.apiPrefix) ≠ ""
  authorization : t.authorization = tokenHeader? c.token
  timeout : t.timeout = c.timeout
  isOpen : t.isOpen = true

theorem configured_of_ofConfig (h : ofConfig c = .ok t) : t.Configured c := by
  have hfit (e : ConfigError) : ¬ c.Unfit e := fun he => by
    rw [he.ofConfig] at h
    cases h
  have hendpoint : ¬ OnlySlashes (strip c.endpoint) := fun h => hfit _ (.endpoint h)
  have hpath : ¬ OnlySlashes (strip c.apiPrefix) := fun h => hfit _ (.path hendpoint h)
  have htimeout : c.timeout.atMostZero = false :=
    Bool.eq_false_iff.2 fun h => hfit _ (.timeout hendpoint hpath h)
  simp only [ofConfig, ← onlySlashes_iff_stripRightChar, slash_append_eq_iff, hendpoint, hpath,
    htimeout, if_false, Bool.false_eq_true] at h
  cases hserver : Url.base c.hosts (stripRightChar '/' (strip c.endpoint)) with
  | error e =>
    rw [hserver] at h
    cases h
  | ok server =>
    rw [hserver] at h
    cases hheader : ((tokenHeader? c.token).map checkAscii).getD (.ok ()) with
    | error f =>
      rw [hheader] at h
      cases h
    | ok _ =>
      rw [hheader] at h
      obtain rfl := Except.ok.inj h
      exact ⟨rfl, hserver, rfl, mt onlySlashes_iff_trimSlashes.2 hpath, rfl, rfl, rfl⟩

theorem Configured.requestPath (h : t.Configured c) (relPath : String) :
    ∃ d rest, (t.requestPath relPath).toList = '/' :: d :: rest ∧ d ≠ '/' := by
  have hfirst := (trimmed_trimBy (· == '/') (strip c.apiPrefix).toList).first
  have htrimmed : (trimSlashes (strip c.apiPrefix)).toList =
      trimBy (· == '/') (strip c.apiPrefix).toList := by
    simp [trimSlashes, stripRightChar, stripLeftChar, trimBy]
  rw [← htrimmed] at hfirst
  have hne : (trimSlashes (strip c.apiPrefix)).toList ≠ [] := by simpa using h.below
  obtain ⟨d, rest, hcons⟩ := List.exists_cons_of_ne_nil hne
  refine ⟨d, rest ++ '/' :: (stripLeftChar '/' relPath).toList, ?_, ?_⟩
  · simp [Transport.requestPath, h.apiPrefix, hcons]
  · simpa [hcons] using hfirst

theorem userAuthorization?_of_plain (h : u.Plain) : userAuthorization? u = none := by
  rw [userAuthorization?, if_pos h.userinfo]

theorem of_prepare {method path : String} {params : List (String × String)}
    {timeout : Option Quantity} {request : SentRequest} {rest : List Char} (hserver : t.server.Plain)
    (hpath : path.toList = '/' :: rest) (h : t.prepare method path params timeout = .ok request) :
    request.url.origin = t.server.origin ∧ request.timeout = timeout.getD t.timeout ∧
      request.authorization = t.authorization := by
  obtain ⟨v, w, hresolve, hquery, rfl⟩ := exists_of_prepare h
  obtain ⟨hv, horigin⟩ := Url.origin_of_resolve hserver hpath hresolve
  obtain ⟨hw, horigin'⟩ := Url.origin_of_withQuery hv hquery
  exact ⟨horigin'.trans horigin, rfl, by rw [userAuthorization?_of_plain hw]; rfl⟩

theorem tokenHeader?_eq_some_iff {token : Option String} {header : String} :
    tokenHeader? token = some header ↔
      ∃ t, token = some t ∧ strip t ≠ "" ∧ header = "Bearer " ++ strip t := by
  cases token with
  | none => simp [tokenHeader?]
  | some t =>
    rw [tokenHeader?]
    split
    · next hblank => simp [hblank]
    · next hne =>
      constructor
      · rintro ⟨⟩
        exact ⟨t, rfl, hne, rfl⟩
      · rintro ⟨t', ⟨⟩, -, rfl⟩
        rfl

theorem prepare_of_mem_sent {path : String} {prepared : Except Fault SentRequest} {reply : Reply}
    {x : Execution} {request : SentRequest} (h : t.Sends path prepared reply x)
    (hmem : request ∈ x.sent) : prepared = .ok request := by
  cases h <;> simp_all

theorem execute_keeps_origin (hconfig : ofConfig c = .ok t)
    (hendpoint : Url.parse c.hosts (stripRightChar '/' (strip c.endpoint)) = .ok u) (huser : u.userinfo = "")
    (method relPath : String) (params : List (String × String)) (timeout : Option Quantity)
    (reply : Reply) :
    (∃ d rest, (t.requestPath relPath).toList = '/' :: d :: rest ∧ d ≠ '/') ∧
      ∀ request ∈ (t.execute method relPath params timeout reply).sent,
        request.url.origin = u.origin ∧ request.timeout = timeout.getD c.timeout ∧
          ∀ header, request.authorization = some header ↔
            ∃ token, c.token = some token ∧ strip token ≠ "" ∧ header = "Bearer " ++ strip token := by
  have hconfigured := configured_of_ofConfig hconfig
  obtain ⟨hserver, horigin⟩ :=
    Url.origin_of_base (Url.plain_of_parse hendpoint huser) hendpoint hconfigured.server
  have hpath := hconfigured.requestPath relPath
  refine ⟨hpath, fun request hmem => ?_⟩
  obtain ⟨d, rest, hrooted, -⟩ := hpath
  have hprepared := prepare_of_mem_sent (t.sends_execute method relPath params timeout reply) hmem
  obtain ⟨hsame, htimeout, hheader⟩ := of_prepare hserver hrooted hprepared
  refine ⟨hsame.trans horigin, hconfigured.timeout ▸ htimeout, fun header => ?_⟩
  rw [hheader, hconfigured.authorization, tokenHeader?_eq_some_iff]

theorem execute_keeps_origin_slashes : ∃ t request,
    ofConfig ⟨.plain, " http://node-1:9000// ", "//admin/ ", some " key ", .whole 10⟩ = .ok t ∧
      (t.execute "GET" "//node-2/info" [] (some (.whole 5)) (.fault (.raised .connect []))).sent =
        [request] ∧
      request.url.origin = ⟨"http", "node-1", some 9000⟩ ∧ request.timeout = .whole 5 ∧
      request.authorization = some "Bearer key" := by
  obtain ⟨t, hconfig, hsent⟩ := exists_of_toOption_map
    (x := ofConfig ⟨.plain, " http://node-1:9000// ", "//admin/ ", some " key ", .whole 10⟩)
    (f := fun t => (t.execute "GET" "//node-2/info" [] (some (.whole 5))
      (.fault (.raised .connect []))).sent.length) (b := 1) (by decide +kernel)
  obtain ⟨u, hendpoint, hu⟩ := exists_of_toOption_map
    (x := Url.parse .plain (stripRightChar '/' (strip " http://node-1:9000// ")))
    (f := fun u => (u.userinfo, u.origin)) (b := ("", ⟨"http", "node-1", some 9000⟩))
    (by decide +kernel)
  obtain ⟨huser, horigin⟩ := Prod.mk.inj hu
  obtain ⟨request, hrequest⟩ := List.length_eq_one_iff.1 hsent
  obtain ⟨hsame, htimeout, hheader⟩ := (execute_keeps_origin hconfig hendpoint huser "GET" "//node-2/info"
    [] (some (.whole 5)) (.fault (.raised .connect []))).2 request (by simp [hrequest])
  exact ⟨t, request, hconfig, hrequest, hsame.trans horigin, htimeout,
    (hheader _).2 ⟨_, rfl, by decide +kernel, by decide +kernel⟩⟩

end Transport

end ClusterHealth.Admin

import ClusterHealth.Proofs.Admin.Accounting
import ClusterHealth.Proofs.Query
import ClusterHealth.Proofs.Web.FormLaws

namespace ClusterHealth.Admin

open ClusterHealth.Web

section Asking

variable {t : Transport} {names : List String} {deadline : Duration} {timeout : Option Quantity}
  {request : SentRequest} {q : List (String × String)}

theorem query_of_prepare {method path : String} (hq : q ≠ [])
    (h : t.prepare method path q timeout = .ok request) : request.url.query = some (formOf q) := by
  obtain ⟨u, v, -, hquery, rfl⟩ := Transport.exists_of_prepare h
  rw [Url.withQuery, if_neg (by simpa using hq)] at hquery
  obtain ⟨_, -, hform⟩ := exists_of_bind_eq_ok hquery
  obtain rfl := Except.ok.inj hform
  rfl

theorem Transport.Emits.exists_form (h : t.Emits names (.ok deadline) timeout request) :
    ∃ q form, queryOf names deadline = .ok q ∧ request.url.query = some form ∧ parseForm form = q := by
  obtain ⟨-, types, d, htypes, hd, hprepare⟩ := h
  obtain rfl := Except.ok.inj hd
  rw [ofList_query] at hprepare
  have hquery := query_of_prepare (List.cons_ne_nil _ _) hprepare
  refine ⟨query types deadline, _, ?_, hquery, parseForm_formOf _⟩
  rw [queryOf, htypes]
  rfl

theorem exists_form_of_mem_sent {reply : Reply} (hq : queryOf names deadline = .ok q)
    (h : request ∈ (requestHealthInfo t names deadline timeout reply).sent) :
    ∃ form, request.url.query = some form ∧ parseForm form = q := by
  obtain ⟨r, hemits, hsent⟩ | ⟨-, hsent⟩ := sent_requestHealthInfo t names deadline timeout reply
  · obtain rfl := List.mem_singleton.1 (hsent ▸ h)
    obtain ⟨q', form, hq', hform⟩ := hemits.exists_form
    obtain rfl := Except.ok.inj (hq.symm.trans hq')
    exact ⟨form, hform⟩
  · cases hsent ▸ h

theorem requestHealthInfo_of_refused {e : DataType.Invalid} (he : queryOf names deadline = .error e)
    (t : Transport) (timeout : Option Quantity) (reply : Reply) :
    requestHealthInfo t names deadline timeout reply = ⟨.error (.unknownType e, none), [], []⟩ := by
  rw [queryOf] at he
  rw [requestHealthInfo]
  cases hnames : DataType.exactly names with
  | ok types => cases hnames ▸ he
  | error e' =>
    cases hnames ▸ he
    rfl

theorem asks_exactly (names : List String) (deadline : Duration) :
    Queried names deadline (queryOf names deadline) ∧
    queryOf names deadline = names.foldlM ask (unasked deadline) ∧
    (∀ others q, (∀ n, n ∈ others ↔ n ∈ names) → queryOf names deadline = .ok q →
      queryOf others deadline = .ok q) ∧
    (∀ others p q, queryOf names deadline = .ok p → queryOf others deadline = .ok q →
      queryOf (names ++ others) deadline = .ok (either p q)) ∧
    ∀ (t : Transport) (timeout : Option Quantity) (reply : Reply),
      (∀ e, queryOf names deadline = .error e → requestHealthInfo t names deadline timeout reply =
        ⟨.error (.unknownType e, none), [], []⟩) ∧
      ∀ q, queryOf names deadline = .ok q →
        ∀ request ∈ (requestHealthInfo t names deadline timeout reply).sent,
          ∃ form, request.url.query = some form ∧ parseForm form = q := by
  refine ⟨queried_queryOf names deadline, queryOf_eq_foldlM names deadline, fun _ _ => queryOf_congr,
    fun _ _ _ => queryOf_append, fun t timeout reply => ⟨fun e he => ?_, fun q hq request h => ?_⟩⟩
  · exact requestHealthInfo_of_refused he t timeout reply
  · exact exists_form_of_mem_sent hq h

theorem asks_exactly_twice : ∃ (t : Transport) (d : Duration) (p q : List (String × String))
    (request : SentRequest) (form : String), t.isOpen = true ∧ d.micros = 5000000 ∧
      queryOf ["sysmem", "perfnet", "sysmem"] d = .ok q ∧ queryOf ["perfnet", "sysmem"] d = .ok q ∧
      queryOf ["syscpu"] d = .ok p ∧
      queryOf (["sysmem", "perfnet", "sysmem"] ++ ["syscpu"]) d = .ok (either q p) ∧
      (requestHealthInfo t ["sysmem", "perfnet", "sysmem"] d none (.fault (.raised .connect []))).sent =
        [request] ∧
      request.url.query = some form ∧ parseForm form = q ∧
      requestHealthInfo t ["sysmem", "cpu", "disk"] d none (.fault (.raised .connect [])) =
        ⟨.error (.unknownType ⟨"cpu"⟩, none), [], []⟩ := by
  let d : Duration := ⟨5000000, by decide, by decide⟩
  obtain ⟨t, -, ht⟩ := exists_of_toOption_map
    (x := Transport.ofConfig ⟨.plain, "http://node-1", "/admin", none, .whole 10⟩)
    (f := fun t => (t.isOpen, (requestHealthInfo t ["sysmem", "perfnet", "sysmem"] d none
      (.fault (.raised .connect []))).sent.length)) (b := (true, 1)) (by decide +kernel)
  obtain ⟨hopen, hsent⟩ := Prod.mk.inj ht
  obtain ⟨request, hrequest⟩ := List.length_eq_one_iff.1 hsent
  have hnames : queryOf ["sysmem", "perfnet", "sysmem"] d = .ok (query [.sysMem, .perfNet, .sysMem] d) :=
    queryOf_names [.sysMem, .perfNet, .sysMem] d
  have hothers : queryOf ["syscpu"] d = .ok (query [.sysCpu] d) := queryOf_names [.sysCpu] d
  obtain ⟨-, -, hsame, happend, hsends⟩ := asks_exactly ["sysmem", "perfnet", "sysmem"] d
  obtain ⟨-, hform⟩ := hsends t none (.fault (.raised .connect []))
  obtain ⟨form, hquery, hparse⟩ := hform _ hnames request (by simp [hrequest])
  obtain ⟨hrefused, -⟩ := (asks_exactly ["sysmem", "cpu", "disk"] d).2.2.2.2 t none
    (.fault (.raised .connect []))
  have hshuffled := hsame ["perfnet", "sysmem"] _ (by grind) hnames
  exact ⟨t, d, _, _, request, form, hopen, rfl, hnames, hshuffled, hothers, happend _ _ _ hnames hothers,
    hrequest, hquery, hparse, hrefused _ (by rfl)⟩

end Asking

end ClusterHealth.Admin

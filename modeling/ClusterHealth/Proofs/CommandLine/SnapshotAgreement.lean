import ClusterHealth.CommandLine.Run
import ClusterHealth.Proofs.Collect.Assembly
import ClusterHealth.Proofs.Json.RoundTrip
import ClusterHealth.Proofs.Report.Holding
import ClusterHealth.Proofs.Selection
import ClusterHealth.Proofs.Settings.Acceptance
import ClusterHealth.Proofs.Web.FormLaws

namespace ClusterHealth

open ClusterHealth.Agent ClusterHealth.Collect ClusterHealth.Text ClusterHealth.Web

namespace CommandLine

section Arguments

variable {names : List String}

def snapshotArguments (names : List String) : List String :=
  if names = [] then ["snapshot"] else ["snapshot", "--types=" ++ ",".intercalate names]

theorem ofArgument_snapshot : Token.ofArgument "snapshot" = .ok (.word "snapshot") := by
  rfl

theorem ofArgument_types (text : String) :
    Token.ofArgument ("--types=" ++ text) = .ok (.flag .types (some text)) := by
  have hlist : ("--types=" ++ text).toList =
      '-' :: '-' :: 't' :: 'y' :: 'p' :: 'e' :: 's' :: '=' :: text.toList := by
    simp
  have hfind : Flag.all.find? (fun f => f.longName.toList == ['-', '-', 't', 'y', 'p', 'e', 's']) =
      some .types := by
    decide
  simp only [Token.ofArgument, hlist, Token.ofLong]
  simp [hfind]

theorem parse_snapshot : Arguments.parse ["snapshot"] = .ok ⟨.snapshot, none, none⟩ := by
  rfl

theorem parse_snapshot_types (text : String) :
    Arguments.parse ["snapshot", "--types=" ++ text] = .ok ⟨.snapshot, some text, none⟩ := by
  have hne : "--types=" ++ text ≠ "--" := by
    intro h
    simpa using congrArg String.toList h
  have htokens : Token.ofArguments ["snapshot", "--types=" ++ text] =
      .ok [.word "snapshot", .flag .types (some text)] := by
    simp only [Token.ofArguments, ofArgument_snapshot, ofArgument_types, if_neg hne]
    rfl
  rw [Arguments.parse, htokens]
  rfl

end Arguments

section Agreement

variable {names : List String} {types : List DataType} {w : World} {s : Settings}

def typesQuery (names : List String) : String := formOf (names.map fun n => ("types", n))

def selected (names : List String) : Except DataType.UnknownNames (List DataType) :=
  if names = [] then .ok DataType.all else DataType.parse names

theorem selection_typesQuery (names : List String) :
    Api.selection (parseForm (typesQuery names)) = selected names := by
  have hnames : ((names.map fun n => ("types", n)).filter (·.1 == "types")).map (·.2) = names := by
    simp [List.filter_map, Function.comp_def]
  rw [typesQuery, parseForm_formOf, Api.selection, hnames, selected]
  cases names with
  | nil => rfl
  | cons n names => rw [if_neg (List.cons_ne_nil n names)]

def snapshotOf (s : Settings) (names : List String) (h : Host) : Outcome :=
  match selected names with
  | .error e => .misused (.rejected e.message)
  | .ok types => snapshot s types h

theorem run_snapshotArguments (hload : Settings.load w.environment w.settingsFile w.host.hostname = .ok s)
    (hcommas : ∀ n ∈ names, ',' ∉ n.toList) (hjoined : names = [] ∨ ",".intercalate names ≠ "") :
    run (snapshotArguments names) w = (snapshotOf s names w.host).under (logRoot s) := by
  rw [run, snapshotArguments, snapshotOf, selected]
  by_cases hnames : names = []
  · simp only [if_pos hnames, parse_snapshot, hload]
    rfl
  · have hresolve := DataType.resolve_intercalate hcommas (hjoined.resolve_left hnames)
    cases hparse : DataType.parse names <;>
      simp only [if_neg hnames, parse_snapshot_types, hload, execute, hresolve, hparse]

theorem handle_typesQuery (api : Api) (h : Host) (names : List String) :
    api.handle h "GET" "/sysinfo" (typesQuery names) =
      match selected names with
      | .error e =>
        .of (Response.json 400 (.obj [("status", .str "error"), ("message", .str e.message)]))
      | .ok types =>
        sysSection api.node.address types h >>= fun c => .of (Response.json 200 c.toJson) := by
  have hroute : Route.ofPath? "/sysinfo" = some .sysInfo := by decide
  cases hselected : selected names <;>
    simp only [Api.handle, hroute, if_true, Api.get, Api.sysInfo, selection_typesQuery, hselected]

theorem exists_service {given : String → Option String} {hostname : AnyText}
    (h : Settings.Accepted given hostname s) :
    ∃ service, (CommandLine.service s).service = some service ∧
      service.api.node.address = s.nodeAddress := by
  obtain ⟨text, hstrip, hne⟩ := Settings.ownAddress_of_eq_ok h.nodeAddress
  have hself : strip s.nodeAddress = s.nodeAddress := by
    rw [hstrip, strip_strip]
  have hnode : Node.ofAddress s.nodeAddress = .ok ⟨strip s.nodeAddress, hself.symm ▸ hne⟩ :=
    dif_neg (hself.symm ▸ hne)
  rw [CommandLine.service, hnode]
  exact ⟨_, rfl, hself⟩

structure Reports (names : List String) (w : World) (api : Api) (c : SysSection) : Prop where
  status : (run (snapshotArguments names) w).status = .ok 0
  printed : (run (snapshotArguments names) w).stdout = c.toJson.render Json.indentedAscii ++ "\n"
  answered : c.toJson.isPlain = true → (api.handle w.host "GET" "/sysinfo" (typesQuery names)).answer =
    .ok ⟨200, some "application/json", c.toJson.render Json.compactRaw⟩
  finite : c.toJson.allFinite = true
  /-- Within the limits of a decoder both texts are read as one value. -/
  read : c.toJson.isReadable = true → c.toJson.isPlain = true → c.toJson.depth ≤ Json.nestingLimit →
    Json.decode (run (snapshotArguments names) w).stdout = .ok c.toJson ∧
      Json.decode (c.toJson.render Json.compactRaw) = .ok c.toJson

structure Refuses (names : List String) (w : World) (api : Api) (message : String) : Prop where
  status : (run (snapshotArguments names) w).status = .ok 2
  stdout : (run (snapshotArguments names) w).stdout = ""
  stderr : (run (snapshotArguments names) w).stderr =
    usage ++ programName ++ ": error: " ++ message ++ "\n"
  log : (run (snapshotArguments names) w).log = []
  untouched : ∀ h, h.hostname = w.host.hostname →
    run (snapshotArguments names) { w with host := h } = run (snapshotArguments names) w
  answered : ∀ h, api.handle h "GET" "/sysinfo" (typesQuery names) =
    ⟨.ok ⟨400, some "application/json", (Json.obj [("status", .str "error"),
      ("message", .str message)]).render Json.compactRaw⟩, []⟩
  named : ∀ n ∈ names, DataType.IsUnknown n → (strip n).toList <:+: message.toList

theorem reports_of_sysSection {api : Api} {c : SysSection} (haddress : api.node.address = s.nodeAddress)
    (hrun : run (snapshotArguments names) w = (snapshotOf s names w.host).under (logRoot s))
    (hselected : selected names = .ok types) (hc : (sysSection s.nodeAddress types w.host).answer = .ok c) :
    Reports names w api c := by
  have hfinite : c.toJson.allFinite = true := Report.allFinite_finite _
  have hsnapshot : run (snapshotArguments names) w = (snapshot s types w.host).under (logRoot s) := by
    rw [hrun, snapshotOf, hselected]
  have hprinted : (run (snapshotArguments names) w).stdout = c.toJson.render Json.indentedAscii ++ "\n" := by
    rw [hsnapshot, snapshot]
    simp only [hc]
    rfl
  refine ⟨?_, hprinted, fun hplain => ?_, hfinite, fun hreadable hplain hdepth => ⟨?_, ?_⟩⟩
  · rw [hsnapshot, snapshot]
    simp only [hc]
    rfl
  · rw [handle_typesQuery, hselected]
    dsimp only
    rw [haddress, answer_bind_iff]
    exact ⟨c, hc, if_pos hplain⟩
  · rw [hprinted]
    exact Json.decode_line _ hreadable hfinite hplain hdepth
  · exact Json.decode_render _ hreadable hfinite hplain hdepth

theorem refuses_of_parse {api : Api} {e : DataType.UnknownNames}
    (hload : Settings.load w.environment w.settingsFile w.host.hostname = .ok s)
    (hcommas : ∀ n ∈ names, ',' ∉ n.toList) (hjoined : ",".intercalate names ≠ "")
    (hselected : selected names = .error e)
    (hnamed : ∀ n ∈ names, DataType.IsUnknown n → (strip n).toList <:+: e.message.toList) :
    Refuses names w api e.message := by
  have hrun (h : Host) (hh : h.hostname = w.host.hostname) :
      run (snapshotArguments names) { w with host := h } =
        (Outcome.misused (.rejected e.message)).under (logRoot s) := by
    rw [run_snapshotArguments (by rw [hh]; exact hload) hcommas (.inr hjoined), snapshotOf, hselected]
  have hself := hrun w.host rfl
  refine ⟨?_, ?_, ?_, ?_, ?_, ?_, hnamed⟩
  · rw [hself]
    rfl
  · rw [hself]
    rfl
  · rw [hself]
    rfl
  · rw [hself]
    rfl
  · intro h hh
    rw [hrun h hh, hself]
  · intro h
    rw [handle_typesQuery, hselected]
    rfl

theorem snapshot_agrees (hload : Settings.load w.environment w.settingsFile w.host.hostname = .ok s) :
    ∃ service, (CommandLine.service s).service = some service ∧
      ∀ names : List String, (∀ n ∈ names, ',' ∉ n.toList) →
        (∀ types, selected names = .ok types → (names = [] ∨ ",".intercalate names ≠ "") →
          Quiet s.nodeAddress w.host → ∃ c, (sysSection s.nodeAddress types w.host).answer = .ok c ∧
            Reports names w service.api c) ∧
        ((∃ n ∈ names, DataType.IsUnknown n) → ∃ message, Refuses names w service.api message) := by
  obtain ⟨service, hservice, haddress⟩ := exists_service (Settings.accepted_of_load hload)
  refine ⟨service, hservice, fun names hcommas => ⟨?_, ?_⟩⟩
  · intro types hselected hjoined hquiet
    obtain ⟨c, hc⟩ := exists_sysSection hquiet types
    exact ⟨c, hc, reports_of_sysSection haddress (run_snapshotArguments hload hcommas hjoined) hselected hc⟩
  · intro hunknown
    obtain ⟨e, he, hnamed⟩ := DataType.exists_refusal hunknown
    obtain ⟨n, hn, hn'⟩ := hunknown
    refine ⟨e.message, refuses_of_parse hload hcommas (DataType.joined_ne_empty hn hn') ?_ hnamed⟩
    rw [selected, if_neg (List.ne_nil_of_mem hn), he]

def bareWorld : World := ⟨[], none, bareHost, .plain, .fault ⟨.connect, ""⟩⟩

theorem snapshot_agrees_bareWorld : ∃ s service, Settings.load [] none (.ok "node-1") = .ok s ∧
    (CommandLine.service s).service = some service ∧
      (∃ c, Reports [" SysMem", "syscpu"] bareWorld service.api c ∧
        Json.decode (run ["snapshot", "--types= SysMem,syscpu"] bareWorld).stdout = .ok c.toJson) ∧
      ∃ message, Refuses ["sysmem", "bogus"] bareWorld service.api message := by
  obtain ⟨s, hload, haddress⟩ := exists_of_toOption_map (f := Settings.nodeAddress) (b := "node-1")
    (x := Settings.load [] none (.ok "node-1")) (by decide +kernel)
  obtain ⟨service, hservice, hagree⟩ := snapshot_agrees (w := bareWorld) hload
  refine ⟨s, service, hload, hservice, ?_, ?_⟩
  · obtain ⟨c, hc, hreports⟩ := (hagree [" SysMem", "syscpu"] (by decide +kernel)).1 [.sysCpu, .sysMem]
      (by decide +kernel) (.inr (by decide +kernel)) (quiet_bareHost s.nodeAddress)
    have hlimits : (sysSection "node-1" [.sysCpu, .sysMem] bareHost).answer.toOption.map (fun c =>
        (c.toJson.isReadable, c.toJson.isPlain, decide (c.toJson.depth ≤ Json.nestingLimit))) =
          some (true, true, true) := by
      decide +kernel
    rw [haddress] at hc
    have hc : (sysSection "node-1" [.sysCpu, .sysMem] bareHost).answer = .ok c := hc
    simp only [hc, Except.toOption, Option.map_some, Option.some.injEq, Prod.mk.injEq,
      decide_eq_true_eq] at hlimits
    exact ⟨c, hreports, (hreports.read hlimits.1 hlimits.2.1 hlimits.2.2).1⟩
  · exact (hagree ["sysmem", "bogus"] (by decide +kernel)).2
      ⟨"bogus", by decide, by decide +kernel, by decide +kernel⟩

end Agreement

end CommandLine

end ClusterHealth

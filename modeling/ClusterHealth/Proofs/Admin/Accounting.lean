import ClusterHealth.Proofs.Admin.Completeness

/-!
The account of a whole session: how often each body was closed that a response came with, and what was
sent. Bodies of earlier requests are kept with those of the current one, each in its place, so that what
is said of a step holds of every body that there ever was.
-/

namespace ClusterHealth.Admin

open ClusterHealth.Report ClusterHealth.Stream ClusterHealth.Web

/-- A later state of a body: what was closed is closed, and what was closed once at most still is. -/
structure Later (b b' : Body) : Prop where
  le : b.closes ≤ b'.closes
  once : b.closes ≤ 1 → b'.closes ≤ 1

namespace Later

variable {a b c : Body}

theorem refl (b : Body) : Later b b := ⟨Nat.le_refl _, id⟩

theorem trans (h : Later a b) (h' : Later b c) : Later a c :=
  ⟨h.le.trans h'.le, fun ha => h'.once (h.once ha)⟩

theorem close (b : Body) : Later b b.close :=
  ⟨b.closes_le_close, fun h => Nat.le_of_eq (Body.closes_close h)⟩

end Later

namespace HealthStream

theorem later_next (s : HealthStream) : Later s.body s.next.2.body := by
  have hcall := Reader.call_next s.reader s.body
  rw [next]
  cases s.first with
  | some d => exact .refl _
  | none => exact ⟨hcall.le_closes, hcall.closes_le⟩

theorem later_drain (steps : Nat) (s : HealthStream) : Later s.body (s.drain steps).2.2.body := by
  induction steps generalizing s with
  | zero => exact .refl _
  | succ steps ih =>
    have hnext := s.later_next
    rw [drain]
    rcases hn : s.next with ⟨_ | _ | _, s'⟩ <;> rw [hn] at hnext
    · exact hnext.trans (ih s')
    · exact hnext
    · exact hnext

theorem later_read (s : HealthStream) : Later s.body s.read.2.2.body := by
  rw [stream_read]
  exact (s.later_drain s.stepsLeft).trans (.close _)

end HealthStream

namespace Session

inductive Use.Releases : Use → Prop
  | read : Releases .read
  | close : Releases .close
  | leave : Releases .leave

theorem use_cases (s : Session) (stream : HealthStream) (hs : s.stream = some stream) (u : Use) :
    ∃ last more, (s.use stream u).2 = ⟨s.transport, some last, more, s.latest⟩ ∧
      Later stream.body last.body ∧ (u.Releases → last.isClosed = true) := by
  have hclosed : stream.close.isClosed = true := Body.isClosed_close _
  cases u with
  | next =>
    rw [use, next]
    cases s.iterating with
    | true => exact ⟨_, _, rfl, stream.later_next, fun h => by cases h⟩
    | false => exact ⟨stream, s.iterating, by rw [← hs]; rfl, .refl _, fun h => by cases h⟩
  | restart => exact ⟨stream, true, by rw [← hs]; rfl, .refl _, fun h => by cases h⟩
  | read => exact ⟨_, _, rfl, stream.later_read, fun _ => stream.isClosed_read⟩
  | close => exact ⟨_, _, rfl, .close _, fun _ => hclosed⟩
  | enter => exact ⟨stream, s.iterating, by rw [← hs]; rfl, .refl _, fun h => by cases h⟩
  | leave => exact ⟨_, _, rfl, .close _, fun _ => hclosed⟩

end Session

inductive Arrival
  | fault (f : Fault)
  | response (status : Nat) (wire : Wire) (headers : Headers) (reason : Option String)
    (chunks : List BodyChunk)

def Arrival.reply : Arrival → Reply
  | .fault f => .fault f
  | .response status wire headers reason chunks =>
    .response ⟨status, headers, reason, .ofChunks wire headers chunks⟩

namespace Transport

def Emits (t : Transport) (types : List String) (deadline : Except Duration.Error Duration)
    (timeout : Option Quantity) (r : SentRequest) : Prop :=
  t.isOpen = true ∧ ∃ kinds d, DataType.exactly types = .ok kinds ∧ deadline = .ok d ∧
    t.prepare "GET" (t.requestPath healthInfoPath) (Entries.ofList (query kinds d)) timeout = .ok r

theorem method_of_prepare {t : Transport} {method path : String} {params : List (String × String)}
    {timeout : Option Quantity} {r : SentRequest}
    (h : t.prepare method path params timeout = .ok r) : r.method = Text.upper method := by
  obtain ⟨_, _, -, -, rfl⟩ := exists_of_prepare h
  rfl

theorem Emits.method {t : Transport} {types : List String}
    {deadline : Except Duration.Error Duration} {timeout : Option Quantity} {r : SentRequest}
    (h : t.Emits types deadline timeout r) : r.method = "GET" := by
  obtain ⟨-, _, _, -, -, hr⟩ := h
  exact (method_of_prepare hr).trans (by decide +kernel)

theorem sent_receive (hosts : HostNames) (path : String) (request : SentRequest) (log : List LogRecord)
    (reply : Reply) :
    (receive hosts path request log reply).sent = [request] := by
  unfold receive
  split
  · rfl
  · split <;> rfl

end Transport

theorem sent_requestHealthInfo (t : Transport) (types : List String) (deadline : Duration)
    (timeout : Option Quantity) (reply : Reply) :
    (∃ r, t.Emits types (.ok deadline) timeout r ∧
      (requestHealthInfo t types deadline timeout reply).sent = [r]) ∨
    (∀ r, ¬ t.Emits types (.ok deadline) timeout r) ∧
      (requestHealthInfo t types deadline timeout reply).sent = [] := by
  rw [requestHealthInfo]
  cases hk : DataType.exactly types with
  | error e => exact .inr ⟨by simp [Transport.Emits, hk], rfl⟩
  | ok kinds =>
    have hsent : (requestHealthInfo t types deadline timeout reply).sent =
        (t.execute "GET" healthInfoPath (query kinds deadline) timeout reply).sent := by
      simp only [requestHealthInfo, hk]
      split
      · rfl
      · split
        · rfl
        · split <;> rfl
    rw [requestHealthInfo, hk] at hsent
    rw [hsent, Transport.execute]
    cases hp : t.prepare "GET" (t.requestPath healthInfoPath)
        (Entries.ofList (query kinds deadline)) timeout with
    | error e => exact .inr ⟨by simp [Transport.Emits, hk, hp], rfl⟩
    | ok r =>
      cases ho : t.isOpen with
      | false => exact .inr ⟨by simp [Transport.Emits, ho], rfl⟩
      | true => exact .inl ⟨r, ⟨ho, kinds, deadline, hk, rfl, hp⟩, Transport.sent_receive ..⟩

theorem result_of_fault (t : Transport) (types : List String) (deadline : Duration)
    (timeout : Option Quantity) (f : Fault) :
    ∃ e, (requestHealthInfo t types deadline timeout (.fault f)).result = .error (e, none) := by
  rw [requestHealthInfo]
  cases DataType.exactly types with
  | error e => exact ⟨_, rfl⟩
  | ok kinds =>
    have hx := t.sends_execute "GET" healthInfoPath (query kinds deadline) timeout (.fault f)
    dsimp only
    generalize t.execute "GET" healthInfoPath (query kinds deadline) timeout (.fault f) = x at hx
    cases hx <;> exact ⟨_, rfl⟩

theorem request_cases (s : Session) (types : List String) (deadline : Duration)
    (timeout : Option Quantity) (arrival : Arrival) :
    (∃ stream, (s.request types deadline timeout arrival.reply).2.2 =
        ⟨s.transport, some stream, true, .stream⟩ ∧ stream.body.closes ≤ 1) ∨
    ∃ body, (s.request types deadline timeout arrival.reply).2.2 =
        ⟨s.transport, none, false, Session.latestOf body⟩ ∧ ∀ b ∈ body, b.closes = 1 := by
  rw [Session.request]
  cases arrival with
  | fault f =>
    obtain ⟨e, he⟩ := result_of_fault s.transport types deadline timeout f
    simp only [Arrival.reply, he]
    exact .inr ⟨none, rfl, by simp⟩
  | response status wire headers reason chunks =>
    have hends := ends_requestHealthInfo s.transport types deadline timeout
      ⟨status, headers, reason, .ofChunks wire headers chunks⟩
    simp only [Arrival.reply]
    generalize requestHealthInfo s.transport types deadline timeout _ = n at hends ⊢
    obtain ⟨⟨e, body⟩ | stream, sent, log⟩ := n
    · refine .inr ⟨body, rfl, fun b hb => ?_⟩
      obtain rfl := Option.mem_def.1 hb
      exact hends.closes_of_error rfl rfl
    · exact .inl ⟨stream, rfl, hends.closes_of_ok rfl rfl⟩

inductive Step
  | request (types : List String) (deadline : Except Duration.Error Duration)
      (timeout : Option Quantity) (arrival : Arrival)
  | use (u : Session.Use)
  | closeClient

structure Ledger where
  session : Session
  past : List Body

namespace Ledger

def start (t : Transport) : Ledger := ⟨.ofTransport t, []⟩

def bodies (l : Ledger) : List Body := l.past ++ l.session.latestBody?.toList

theorem bodies_of_stream (t : Transport) (stream : HealthStream) (more : Bool) (past : List Body) :
    bodies ⟨⟨t, some stream, more, .stream⟩, past⟩ = past ++ [stream.body] := rfl

theorem bodies_of_body (t : Transport) (body : Option Body) (past : List Body) :
    bodies ⟨⟨t, none, false, Session.latestOf body⟩, past⟩ = past ++ body.toList := by
  cases body <;> rfl

def step (l : Ledger) : Step → List SentRequest × Ledger
  | .request _ (.error _) _ _ => ([], ⟨l.session.forget, l.bodies⟩)
  | .request types (.ok deadline) timeout arrival =>
    let (_, sent, s) := l.session.request types deadline timeout arrival.reply
    (sent, ⟨s, l.bodies⟩)
  | .use u =>
    match l.session.stream with
    | none => ([], l)
    | some stream => ([], ⟨(l.session.use stream u).2, l.past⟩)
  | .closeClient => ([], ⟨l.session.closeClient, l.past⟩)

def run : List Step → Ledger → Ledger
  | [], l => l
  | x :: xs, l => run xs (l.step x).2

theorem run_append (xs ys : List Step) (l : Ledger) : l.run (xs ++ ys) = (l.run xs).run ys := by
  induction xs generalizing l with
  | nil => rfl
  | cons x xs ih => exact ih _

def Onward (l l' : Ledger) : Prop :=
  ∀ (i : Nat) (b : Body), l.bodies[i]? = some b → ∃ b', l'.bodies[i]? = some b' ∧ Later b b'

variable {l l' : Ledger}

theorem Onward.refl (l : Ledger) : l.Onward l := fun _ b h => ⟨b, h, .refl b⟩

theorem Onward.trans {l'' : Ledger} (h : l.Onward l') (h' : l'.Onward l'') : l.Onward l'' := by
  intro i a ha
  obtain ⟨b, hb, hab⟩ := h i a ha
  obtain ⟨c, hc, hbc⟩ := h' i b hb
  exact ⟨c, hc, hab.trans hbc⟩

theorem onward_of_append {new : List Body} (h : l'.bodies = l.bodies ++ new) : l.Onward l' := by
  intro i b hb
  refine ⟨b, ?_, .refl b⟩
  rw [h, List.getElem?_append_left (List.getElem?_eq_some_iff.1 hb).1, hb]

theorem onward_of_last {past : List Body} {b b' : Body} (h : l.bodies = past ++ [b])
    (h' : l'.bodies = past ++ [b']) (hb : Later b b') : l.Onward l' := by
  intro i a ha
  rw [h] at ha
  rw [h']
  obtain hlt | hge := Nat.lt_or_ge i past.length
  · rw [List.getElem?_append_left hlt] at ha ⊢
    exact ⟨a, ha, .refl a⟩
  · rw [List.getElem?_append_right hge] at ha ⊢
    obtain ⟨hi, rfl⟩ : i - past.length = 0 ∧ b = a := by simpa [List.getElem?_singleton] using ha
    exact ⟨b', by simp [hi], hb⟩

def Emits (l : Ledger) (x : Step) (sent : List SentRequest) : Prop :=
  match x with
  | .request types deadline timeout _ =>
    (∃ r, l.session.transport.Emits types deadline timeout r ∧ r.method = "GET" ∧ sent = [r]) ∨
      (∀ r, ¬ l.session.transport.Emits types deadline timeout r) ∧ sent = []
  | _ => sent = []

theorem emits_step (l : Ledger) (x : Step) : l.Emits x (l.step x).1 := by
  cases x with
  | request types deadline timeout arrival =>
    cases deadline with
    | error e => exact .inr ⟨by simp [Transport.Emits], rfl⟩
    | ok d =>
      have hsent : (l.step (.request types (.ok d) timeout arrival)).1 =
          (requestHealthInfo l.session.transport types d timeout arrival.reply).sent := by
        simp only [step, Session.request]
        split <;> rfl
      rw [hsent]
      obtain ⟨r, hr, hone⟩ | hnone :=
        sent_requestHealthInfo l.session.transport types d timeout arrival.reply
      · exact .inl ⟨r, hr, hr.method, hone⟩
      · exact .inr hnone
  | use u =>
    change (l.step (.use u)).1 = []
    rw [step]
    split <;> rfl
  | closeClient => rfl

inductive Moves (l : Ledger) : Step → Ledger → Prop
  | refused : Moves l (.request types (.error e) timeout arrival) ⟨l.session.forget, l.bodies⟩
  | accepted : stream.body.closes ≤ 1 → Moves l (.request types (.ok d) timeout arrival)
      ⟨⟨l.session.transport, some stream, true, .stream⟩, l.bodies⟩
  | failed : (∀ b ∈ body, b.closes = 1) → Moves l (.request types (.ok d) timeout arrival)
      ⟨⟨l.session.transport, none, false, Session.latestOf body⟩, l.bodies⟩
  | used : l.session.stream = some stream → Later stream.body last.body →
      (u.Releases → last.isClosed = true) →
      Moves l (.use u) ⟨⟨l.session.transport, some last, more, l.session.latest⟩, l.past⟩
  | idle : l.session.stream = none → Moves l (.use u) l
  | closedClient : Moves l .closeClient ⟨l.session.closeClient, l.past⟩

theorem moves_step (l : Ledger) (x : Step) : l.Moves x (l.step x).2 := by
  cases x with
  | request types deadline timeout arrival =>
    cases deadline with
    | error e => exact .refused
    | ok d =>
      rw [step]
      obtain ⟨stream, hs, hopen⟩ | ⟨body, hs, hclosed⟩ :=
        request_cases l.session types d timeout arrival
      · simp only [hs]
        exact .accepted hopen
      · simp only [hs]
        exact .failed hclosed
  | use u =>
    rw [step]
    cases hs : l.session.stream with
    | none => exact .idle hs
    | some stream =>
      obtain ⟨last, more, huse, hlater, hreleased⟩ := l.session.use_cases stream hs u
      simp only [huse]
      exact .used hs hlater hreleased
  | closeClient => exact .closedClient

/-- Between steps: no body was closed twice, and the body of a current stream is the latest one. -/
structure Sound (l : Ledger) : Prop where
  once : ∀ b ∈ l.bodies, b.closes ≤ 1
  latest : ∀ stream, l.session.stream = some stream → l.session.latest = .stream

theorem sound_start (t : Transport) : (start t).Sound :=
  ⟨by simp [start, bodies, Session.ofTransport, Session.latestBody?], fun _ h => nomatch h⟩

theorem Sound.bodies_eq (h : l.Sound) {stream : HealthStream}
    (hs : l.session.stream = some stream) : l.bodies = l.past ++ [stream.body] := by
  simp [bodies, Session.latestBody?, h.latest stream hs, hs]

namespace Moves

variable {x : Step}

theorem onward (h : l.Moves x l') (hl : l.Sound) : l.Onward l' := by
  cases h with
  | refused | accepted | failed => exact onward_of_append rfl
  | used hs hlater =>
    rw [hl.latest _ hs]
    exact onward_of_last (hl.bodies_eq hs) (bodies_of_stream ..) hlater
  | idle => exact .refl l
  | closedClient => exact .refl l

theorem sound (h : l.Moves x l') (hl : l.Sound) : l'.Sound := by
  cases h with
  | refused =>
    exact ⟨by simpa [bodies, Session.forget, Session.latestBody?] using hl.once, fun _ h => nomatch h⟩
  | @accepted _ _ _ _ stream hopen =>
    refine ⟨fun b hb => ?_, fun _ _ => rfl⟩
    rw [bodies_of_stream, List.mem_append, List.mem_singleton] at hb
    obtain hb | rfl := hb
    · exact hl.once b hb
    · exact hopen
  | failed hclosed =>
    refine ⟨fun b hb => ?_, fun _ h => nomatch h⟩
    rw [bodies_of_body, List.mem_append, Option.mem_toList] at hb
    obtain hb | hb := hb
    · exact hl.once b hb
    · exact Nat.le_of_eq (hclosed b hb)
  | @used stream _ last _ hs hlater =>
    have hlatest := hl.latest _ hs
    have hbodies := hl.bodies_eq hs
    refine ⟨fun b hb => ?_, fun _ _ => hlatest⟩
    rw [hlatest, bodies_of_stream, List.mem_append, List.mem_singleton] at hb
    obtain hb | rfl := hb
    · exact hl.once b (by simp [hbodies, hb])
    · exact hlater.once (hl.once stream.body (by simp [hbodies]))
  | idle => exact hl
  | closedClient => exact ⟨hl.once, hl.latest⟩

theorem released {u : Session.Use} (h : l.Moves (.use u) l') (hu : u.Releases)
    {stream : HealthStream} (hs : l.session.stream = some stream) :
    ∃ last, l'.session.stream = some last ∧ last.isClosed = true := by
  cases h with
  | used _ _ hreleased => exact ⟨_, rfl, hreleased hu⟩
  | idle hnone => simp [hs] at hnone

theorem isOpen (h : l.Moves x l') :
    l'.session.transport.isOpen = true ↔ l.session.transport.isOpen = true ∧ x ≠ .closeClient := by
  cases h <;> simp [Session.forget, Session.closeClient, Transport.close]

end Moves

theorem Sound.closed (h : l.Sound) {stream : HealthStream} (hs : l.session.stream = some stream) :
    l.bodies.getLast? = some stream.body ∧ (stream.isClosed = true ↔ stream.body.closes = 1) := by
  have hbodies := h.bodies_eq hs
  have honce := h.once stream.body (by simp [hbodies])
  refine ⟨by simp [hbodies], ?_⟩
  rw [HealthStream.isClosed, Body.isClosed, decide_eq_true_iff]
  omega

theorem sound_run (hl : l.Sound) (xs : List Step) : (l.run xs).Sound ∧ l.Onward (l.run xs) := by
  induction xs generalizing l with
  | nil => exact ⟨hl, .refl l⟩
  | cons x xs ih =>
    have hmoves := l.moves_step x
    obtain ⟨hsound, honward⟩ := ih (hmoves.sound hl)
    exact ⟨hsound, (hmoves.onward hl).trans honward⟩

theorem isOpen_run (l : Ledger) (xs : List Step) :
    (l.run xs).session.transport.isOpen = true ↔
      l.session.transport.isOpen = true ∧ .closeClient ∉ xs := by
  induction xs generalizing l with
  | nil => simp [run]
  | cons x xs ih =>
    rw [run, ih, (l.moves_step x).isOpen, List.mem_cons, not_or, and_assoc, ne_comm]

structure Accounted (l : Ledger) (x : Step) (out : List SentRequest × Ledger) : Prop where
  once : ∀ b ∈ out.2.bodies, b.closes ≤ 1
  closed : ∀ stream, out.2.session.stream = some stream →
    out.2.bodies.getLast? = some stream.body ∧ (stream.isClosed = true ↔ stream.body.closes = 1)
  released : ∀ u, x = .use u → u.Releases → ∀ stream, l.session.stream = some stream →
    ∃ last, out.2.session.stream = some last ∧ last.isClosed = true
  sent : l.Emits x out.1

theorem accounted_run (t : Transport) (before : List Step) (x : Step) (behind : List Step) :
    ((start t).run before).Accounted x (((start t).run before).step x) ∧
      ((start t).run before).Onward ((start t).run (before ++ x :: behind)) ∧
      (((start t).run before).session.transport.isOpen = true ↔
        t.isOpen = true ∧ .closeClient ∉ before) := by
  have hbefore := (sound_run (sound_start t) before).1
  have hmoves := ((start t).run before).moves_step x
  have hafter := hmoves.sound hbefore
  refine ⟨⟨hafter.once, fun _ hs => hafter.closed hs, ?_, emits_step _ x⟩, ?_, isOpen_run _ before⟩
  · rintro u rfl hu stream hs
    exact hmoves.released hu hs
  · rw [run_append]
    exact (sound_run hbefore _).2

end Ledger

end ClusterHealth.Admin

import ClusterHealth.Proofs.Admin.Completeness
import ClusterHealth.Proofs.Admin.Negotiation
import ClusterHealth.Proofs.Web.Cutting

namespace ClusterHealth.Admin

open ClusterHealth.Report ClusterHealth.Stream ClusterHealth.Web

namespace HealthStream

/-- Two streams that hand out the same from now on, and are closed at the same time. -/
structure Alike (s t : HealthStream) : Prop where
  version : s.version = t.version
  first : s.first = t.first
  fits : s.reader.Fits s.body ∧ t.reader.Fits t.body
  ahead : s.ahead = t.ahead
  stands : ∃ o, s.reader.Stands s.body o ∧ t.reader.Stands t.body o

variable {s t last : HealthStream} {ds : List Members} {e : Option ReadError}

theorem Alike.isClosed (h : s.Alike t) : s.isClosed = t.isClosed := by
  obtain ⟨o, hs, ht⟩ := h.stands
  exact hs.isClosed.trans ht.isClosed.symm

theorem Steps.alike {out out' : Reading × HealthStream} (h : s.Steps out) (h' : t.Steps out')
    (hst : s.Alike t) : out.1 = out'.1 ∧ out.2.Alike out'.2 := by
  obtain ⟨hversion, hfirst, ⟨hfits, hfits'⟩, hahead, o, hs, ht⟩ := hst
  cases h with
  | first hd =>
    cases h' with
    | first hd' =>
      rw [hd, hd', Option.some.injEq] at hfirst
      subst hfirst
      exact ⟨rfl, hversion, rfl, ⟨hfits, hfits'⟩, hahead, o, hs, ht⟩
    | call hd' => simp [hd, hd'] at hfirst
  | call hd hcall hfits hx hnext =>
    cases h' with
    | first hd' => simp [hd, hd'] at hfirst
    | call hd' hcall' hfits' hx' hnext' =>
      refine ⟨by rw [hx, hx', hahead], hversion, rfl, ⟨hfits, hfits'⟩, ?_, _,
        hcall.stands hs, hcall'.stands ht⟩
      exact hnext.trans (hahead ▸ hnext'.symm)

theorem Alike.next (h : s.Alike t) : s.next.1 = t.next.1 ∧ s.next.2.Alike t.next.2 :=
  (steps_next h.fits.1).alike (steps_next h.fits.2) h

theorem Drains.alike (h : Drains s ds e last) (hst : s.Alike t) : ∃ last', Drains t ds e last' := by
  induction h generalizing t with
  | document hn _ ih =>
    obtain ⟨hreading, hnext⟩ := hst.next
    rw [hn] at hreading hnext
    have hn' : t.next = (.document _, t.next.2) := Prod.ext hreading.symm rfl
    obtain ⟨last', hlast⟩ := ih hnext
    exact ⟨last', .document hn' hlast⟩
  | ended hn =>
    have hreading := hst.next.1
    rw [hn] at hreading
    exact ⟨t.next.2, .ended (Prod.ext hreading.symm rfl)⟩
  | failed hn =>
    have hreading := hst.next.1
    rw [hn] at hreading
    exact ⟨t.next.2, .failed (Prod.ext hreading.symm rfl)⟩

theorem read_congr (hds : s.readAll.1 = t.readAll.1) (he : s.readAll.2.1 = t.readAll.2.1) :
    s.read.1 = t.read.1 ∧ s.read.2.1 = t.read.2.1 := by
  rw [read, read]
  generalize s.readAll = x at *
  generalize t.readAll = y at *
  obtain ⟨ds, e, s'⟩ := x
  obtain ⟨ds', e', t'⟩ := y
  obtain rfl : ds = ds' := hds
  obtain rfl : e = e' := he
  cases e with
  | some e => exact ⟨rfl, rfl⟩
  | none =>
    cases hd : ds.getLast? with
    | none => simp [hd]
    | some d => cases hj : HealthInfo.ofJson (.obj d) <;> simp [hd, hj]

theorem Alike.read (h : s.Alike t) : s.read.1 = t.read.1 ∧ s.read.2.1 = t.read.2.1 := by
  obtain ⟨last, hs, -⟩ := drains_readAll h.fits.1
  obtain ⟨last', ht, -⟩ := drains_readAll h.fits.2
  obtain ⟨_, hst⟩ := hs.alike h
  obtain ⟨hds, he⟩ := hst.unique ht
  exact read_congr hds he

end HealthStream

def outcomeOf (a : Ahead) : Except Error AnyText :=
  match a.next.1 with
  | .failed e => .error (.reading e)
  | .ended => .error .emptyBody
  | .document d => judge d

theorem Opened.outcome {a : Ahead} {outcome : Except (Error × Body) HealthStream}
    (h : Opened a outcome) :
    outcomeOf a = (outcome.map (·.version)).mapError (·.1) := by
  cases h with
  | failed h | ended h => simp [outcomeOf, h, Except.map, Except.mapError]
  | judged h hj | accepted h hj => simp [outcomeOf, h, hj, Except.map, Except.mapError]

variable {wire : Wire} {headers : Headers} {cut cut' : List (List UInt8)}

theorem ahead_initial_congr (hbare : wire.IsBare headers) (h : cut.flatten = cut'.flatten) :
    Reader.initial.ahead (Body.ofChunks wire headers (cut.map .octets)) =
      Reader.initial.ahead (Body.ofChunks wire headers (cut'.map .octets)) := by
  have hscript := Body.ahead_script_congr hbare h
  simp only [Reader.ahead, Scripted.script, hscript]

theorem stands_of_negotiate (s : HealthStream) (cut : List (List UInt8)) (hbare : wire.IsBare headers) :
    ∃ charset d, wire.decoder headers = .builtIn charset d ∧
      (negotiate (.ofChunks wire headers (cut.map .octets)) = .ok s →
        s.reader.Stands s.body (Reader.standing (some (charset.decode d cut.flatten).1))) := by
  obtain ⟨charset, d, hd, hflows⟩ := Body.flows_ofChunks hbare cut
  refine ⟨charset, d, hd, fun h => ?_⟩
  obtain ⟨_, hcall⟩ := call_of_negotiate h
  exact hcall.stands_of_flows Reader.wf_initial rfl hflows

theorem alike_of_negotiate {s t : HealthStream} (hbare : wire.IsBare headers)
    (h : cut.flatten = cut'.flatten) (hs : negotiate (.ofChunks wire headers (cut.map .octets)) = .ok s)
    (ht : negotiate (.ofChunks wire headers (cut'.map .octets)) = .ok t) (hversion : s.version = t.version) :
    s.Alike t := by
  have hahead := ahead_initial_congr hbare h
  have htext := congrArg Ahead.text hahead
  rw [text_initial_ahead, text_initial_ahead] at htext
  obtain ⟨d, p, rest, -, hd, hf, hdecode, hfits, hrest⟩ := front_of_negotiate hs
  obtain ⟨d', p', rest', -, hd', hf', hdecode', hfits', hrest'⟩ := front_of_negotiate ht
  have hopens : d = d' := Opens.unique ⟨p, rest, hf, hdecode⟩ (htext ▸ ⟨p', rest', hf', hdecode'⟩)
  obtain ⟨-, rfl⟩ : p = p' ∧ rest = rest' := by simpa [hf', htext] using hf.symm
  rw [Body.ahead_script_congr hbare h, ← hrest'] at hrest
  obtain ⟨charset, d, hdecoder, hstands⟩ := stands_of_negotiate s cut hbare
  obtain ⟨charset', d', hdecoder', hstands'⟩ := stands_of_negotiate t cut' hbare
  obtain ⟨rfl, rfl⟩ := TextDecoder.builtIn.inj (hdecoder.symm.trans hdecoder')
  rw [h] at hstands
  exact ⟨hversion, by rw [hd, hd', hopens], ⟨hfits, hfits'⟩, hrest, _, hstands hs, hstands' ht⟩

inductive Negotiation.Alike : Negotiation → Negotiation → Prop
  | failed : body.map Body.isClosed = body'.map Body.isClosed →
      Alike ⟨.error (e, body), requests, records⟩ ⟨.error (e, body'), requests, records⟩
  | accepted : s.Alike t → Alike ⟨.ok s, requests, records⟩ ⟨.ok t, requests, records⟩

theorem Negotiation.Alike.refl_error (e : Error) (requests : List SentRequest)
    (records : List LogRecord) :
    Negotiation.Alike ⟨.error (e, none), requests, records⟩ ⟨.error (e, none), requests, records⟩ :=
  .failed rfl

theorem isClosed_of_rejected {chunks : List BodyChunk} {e : Error} {body : Body}
    (h : negotiate (.ofChunks wire headers chunks) = .error (e, body)) : body.isClosed = true := by
  have hclosed := closes_negotiate (.ofChunks wire headers chunks) rfl
  rw [h] at hclosed
  simp [Body.isClosed, show body.closes = 1 from hclosed]

def success (wire : Wire) (headers : Headers) (reason : Option String) (cut : List (List UInt8)) : Reply :=
  .response ⟨200, headers, reason, .ofChunks wire headers (cut.map .octets)⟩

theorem alike_negotiate (hbare : wire.IsBare headers) (h : cut.flatten = cut'.flatten) :
    (∃ e body body', negotiate (.ofChunks wire headers (cut.map .octets)) = .error (e, body) ∧
      negotiate (.ofChunks wire headers (cut'.map .octets)) = .error (e, body') ∧
      body.isClosed = body'.isClosed) ∨
    ∃ s t, negotiate (.ofChunks wire headers (cut.map .octets)) = .ok s ∧
      negotiate (.ofChunks wire headers (cut'.map .octets)) = .ok t ∧ s.Alike t := by
  have hs := (opened_negotiate wire headers (cut.map .octets)).outcome
  have ht := (opened_negotiate wire headers (cut'.map .octets)).outcome
  rw [ahead_initial_congr hbare h, ht] at hs
  rcases hn : negotiate (.ofChunks wire headers (cut.map .octets)) with ⟨e, body⟩ | s <;>
    rcases hn' : negotiate (.ofChunks wire headers (cut'.map .octets)) with ⟨e', body'⟩ | t <;>
      simp only [hn, hn', Except.map, Except.mapError, reduceCtorEq, Except.error.injEq,
        Except.ok.injEq] at hs
  · subst hs
    exact .inl ⟨_, _, _, rfl, rfl, by rw [isClosed_of_rejected hn, isClosed_of_rejected hn']⟩
  · exact .inr ⟨_, _, rfl, rfl, alike_of_negotiate hbare h hn hn' hs.symm⟩

theorem alike_requestHealthInfo (t : Transport) (types : List String) (deadline : Duration)
    (timeout : Option Quantity) (hbare : wire.IsBare headers) (reason : Option String)
    (h : cut.flatten = cut'.flatten) :
    (requestHealthInfo t types deadline timeout (success wire headers reason cut)).Alike
      (requestHealthInfo t types deadline timeout (success wire headers reason cut')) := by
  have hplace (url : Url) (cut : List (List UInt8)) : Transport.checkLocation t.hosts url
      ⟨200, headers, reason, .ofChunks wire headers (cut.map .octets)⟩ = .ok () :=
    checkLocation_of_success rfl t.hosts url
  rw [requestHealthInfo, requestHealthInfo]
  cases DataType.exactly types with
  | error e => exact .refl_error ..
  | ok kinds =>
    simp only [Transport.execute]
    cases t.prepare "GET" (t.requestPath healthInfoPath)
        (Entries.ofList (query kinds deadline)) timeout with
    | error e => exact .refl_error ..
    | ok request =>
      cases t.isOpen with
      | false => exact .refl_error ..
      | true =>
        simp only [success, Transport.receive, hplace, if_true, ne_eq, not_true_eq_false, if_false]
        obtain ⟨e, body, body', hn, hn', hclosed⟩ | ⟨a, b, hn, hn', hab⟩ :=
          alike_negotiate hbare h
        · rw [hn, hn']
          exact .failed (by simp [hclosed])
        · simp only [hn, hn', hab.version]
          exact .accepted hab

namespace Session

inductive Alike : Session → Session → Prop
  | failed : body.map Body.isClosed = body'.map Body.isClosed →
      Alike ⟨t, none, false, latestOf body⟩ ⟨t, none, false, latestOf body'⟩
  | stream (more : Bool) : a.Alike b → Alike ⟨t, some a, more, .stream⟩ ⟨t, some b, more, .stream⟩

def closed? (s : Session) : Option Bool := s.latestBody?.map Body.isClosed

variable {s s' : Session}

theorem Alike.closed? (h : s.Alike s') : s.closed? = s'.closed? := by
  have hof (t : Transport) (body : Option Body) :
      Session.closed? ⟨t, none, false, latestOf body⟩ = body.map Body.isClosed := by
    cases body <;> rfl
  cases h with
  | failed h => rw [hof, hof, h]
  | stream _ h => exact congrArg some h.isClosed

inductive Turn
  | next
  | restart
deriving DecidableEq

def Turn.use : Turn → Use
  | .next => .next
  | .restart => .restart

def trace : List Use → Session → List (List Reading × Option Bool) × Session
  | [], s => ([], s)
  | u :: us, s =>
    match s.stream with
    | none => ([], s)
    | some stream =>
      let (out, next) := s.use stream u
      let (rest, last) := trace us next
      ((out, next.closed?) :: rest, last)

theorem Alike.turn {a b : HealthStream} (h : a.Alike b) (t : Transport) (more : Bool) (u : Turn) :
    ((⟨t, some a, more, .stream⟩ : Session).use a u.use).1 =
        ((⟨t, some b, more, .stream⟩ : Session).use b u.use).1 ∧
      ((⟨t, some a, more, .stream⟩ : Session).use a u.use).2.Alike
        ((⟨t, some b, more, .stream⟩ : Session).use b u.use).2 := by
  cases u with
  | restart => exact ⟨rfl, .stream true h⟩
  | next =>
    cases more with
    | false => exact ⟨rfl, .stream false h⟩
    | true =>
      obtain ⟨hreading, hnext⟩ := h.next
      simp only [Turn.use, use, Session.next, if_true, hreading]
      exact ⟨trivial, .stream _ hnext⟩

theorem Alike.trace (h : s.Alike s') (turns : List Turn) :
    (s.trace (turns.map Turn.use)).1 = (s'.trace (turns.map Turn.use)).1 ∧
      (s.trace (turns.map Turn.use)).2.Alike (s'.trace (turns.map Turn.use)).2 := by
  induction turns generalizing s s' with
  | nil => exact ⟨rfl, h⟩
  | cons u turns ih =>
    cases h with
    | failed h => exact ⟨rfl, .failed h⟩
    | @stream t a b more h =>
      obtain ⟨hout, hnext⟩ := Alike.turn h t more u
      obtain ⟨hrest, hlast⟩ := ih hnext
      simp only [List.map_cons, Session.trace, hout, hrest, hnext.closed?]
      exact ⟨trivial, hlast⟩

structure Seen where
  outcome : Except Error AnyText
  sent : List SentRequest
  closed : Option Bool
  turns : List (List Reading × Option Bool)
  report : Option (Except Error HealthInfo × List LogRecord × Option Bool)

def run (s : Session) (types : List String) (deadline : Duration) (timeout : Option Quantity)
    (reply : Reply) (turns : List Turn) : Seen :=
  let (outcome, sent, s) := s.request types deadline timeout reply
  let (steps, last) := s.trace (turns.map Turn.use)
  ⟨outcome, sent, s.closed?, steps, last.stream.map fun stream =>
    (stream.read.1, stream.read.2.1, (last.read stream).2.closed?)⟩

theorem alike_request (s : Session) (types : List String) (deadline : Duration)
    (timeout : Option Quantity) (hbare : wire.IsBare headers) (reason : Option String)
    (h : cut.flatten = cut'.flatten) :
    ∃ outcome sent a b,
      s.request types deadline timeout (success wire headers reason cut) = (outcome, sent, a) ∧
      s.request types deadline timeout (success wire headers reason cut') = (outcome, sent, b) ∧
      a.Alike b := by
  have hn := alike_requestHealthInfo s.transport types deadline timeout hbare reason h
  rw [request, request]
  generalize requestHealthInfo s.transport types deadline timeout (success wire headers reason cut) = m at hn
  generalize requestHealthInfo s.transport types deadline timeout (success wire headers reason cut') = n at hn
  cases hn with
  | failed h => exact ⟨_, _, _, _, rfl, rfl, .failed h⟩
  | accepted h => exact ⟨_, _, _, _, rfl, by rw [h.version], .stream true h⟩

theorem closed?_read (s : Session) (stream : HealthStream) (h : s.latest = .stream) :
    (s.read stream).2.closed? = some true := by
  have hclosed : stream.read.2.2.body.isClosed = true := stream.isClosed_read
  simpa [Session.read, Session.closed?, latestBody?, h] using hclosed

theorem run_congr (s : Session) (types : List String) (deadline : Duration)
    (timeout : Option Quantity) (hbare : wire.IsBare headers) (reason : Option String)
    (h : cut.flatten = cut'.flatten) (turns : List Turn) :
    s.run types deadline timeout (success wire headers reason cut) turns =
      s.run types deadline timeout (success wire headers reason cut') turns := by
  obtain ⟨outcome, sent, a, b, ha, hb, hab⟩ :=
    s.alike_request types deadline timeout hbare reason h
  obtain ⟨hsteps, hlast⟩ := hab.trace turns
  have hclosed := hab.closed?
  simp only [run, ha, hb, hsteps, hclosed]
  generalize (a.trace (turns.map Turn.use)).2 = x at hlast
  generalize (b.trace (turns.map Turn.use)).2 = y at hlast
  cases hlast with
  | failed => rfl
  | stream _ h => simp [h.read, closed?_read]

def wholeAccent : List (List UInt8) :=
  [Text.octets "\x7b\"version\":\"1\"\x7d \x7b\"sys\":\x7b\x7d,\"é\":1\x7d"]

def cutAccent : List (List UInt8) :=
  [Text.octets "\x7b\"version\":\"1\"\x7d \x7b\"sys\":\x7b\x7d,\"" ++ [0xc3], [],
    0xa9 :: Text.octets "\":1", Text.octets "\x7d"]

theorem run_congr_cutAccent :
    wholeAccent.flatten = cutAccent.flatten ∧
      (ofTransport localTransport).run ["minioinfo"] ⟨60000000, by decide, by decide⟩ none
          (success .plain [] none wholeAccent) [.next, .restart, .next] =
        (ofTransport localTransport).run ["minioinfo"] ⟨60000000, by decide, by decide⟩ none
          (success .plain [] none cutAccent) [.next, .restart, .next] ∧
      ((ofTransport localTransport).run ["minioinfo"] ⟨60000000, by decide, by decide⟩ none
          (success .plain [] none cutAccent) [.next, .restart, .next]).closed = some false :=
  have h : wholeAccent.flatten = cutAccent.flatten := by decide +kernel
  ⟨h, run_congr _ _ _ _ ⟨rfl, rfl⟩ _ h _, by decide +kernel⟩

end Session

end ClusterHealth.Admin

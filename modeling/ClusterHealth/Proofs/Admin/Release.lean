import ClusterHealth.Admin.Client
import ClusterHealth.Proofs.Results
import ClusterHealth.Proofs.Web.BodyLaws

/-!
What becomes of the body of an answer. A request that fails has closed it once when it gives its error;
one that succeeds hands it on open, since a document is known by a bracket and brackets come from
chunks of an open body only.
-/

namespace ClusterHealth

open ClusterHealth.Stream ClusterHealth.Web

namespace Stream.Reader

open Framing

variable {r : Reader} {b : Body} {out : Reading × Reader × Body}

theorem Call.closes_le (h : r.Call b out) (hb : b.closes ≤ 1) : out.2.2.closes ≤ 1 := by
  induction h with
  | known | exhausted => exact hb
  | text _ _ hpull _ ih | ended _ _ hpull _ ih =>
    obtain rfl : (TextSource.pull _).2 = _ := congrArg Prod.snd hpull
    exact ih (Body.closes_pull_le hb)
  | fault _ _ hpull =>
    obtain rfl : (TextSource.pull _).2 = _ := congrArg Prod.snd hpull
    exact Body.closes_pull_le hb

theorem Call.le_closes (h : r.Call b out) : b.closes ≤ out.2.2.closes := by
  induction h with
  | known | exhausted => exact Nat.le_refl _
  | text _ _ hpull _ ih | ended _ _ hpull _ ih =>
    obtain rfl : (TextSource.pull _).2 = _ := congrArg Prod.snd hpull
    exact (Body.le_closes_pull _).trans ih
  | fault _ _ hpull =>
    obtain rfl : (TextSource.pull _).2 = _ := congrArg Prod.snd hpull
    exact Body.le_closes_pull _

theorem Call.closes_of_document {d : Members} (h : r.Call b out) (hr : r.Wf)
    (hd : b.decoder.isBuiltIn = true)
    (hb : b.closes = 0 ∨ b.finished = true ∧ ∀ c ∈ r.pending, Scan.isClosing c = false)
    (hout : out.1 = .document d) : out.2.2.closes = 0 := by
  induction h with
  | @known _ _ r _ ha =>
    obtain rfl := hout
    rw [advance_eq hr] at ha
    cases hf : front r.held with
    | short t => simp [hf] at ha
    | stray t => simp [hf] at ha
    | piece p t =>
      -- the piece ends at a bracket that had not been scanned, so it came with text of an open body
      refine hb.resolve_right fun ⟨_, hnone⟩ => ?_
      obtain ⟨u, hu⟩ := front_taken hr
      obtain ⟨c, hc, hclose⟩ := exists_isClosing_of_front hu hf
      simp [hnone c hc] at hclose
  | exhausted => split at hout <;> cases hout
  | text ha _ hpull _ ih =>
    obtain ⟨t, hf, rfl⟩ := advance_eq_none hr ha
    have hnext := Body.isBuiltIn_pull hd
    rw [show Body.pull _ = _ from hpull] at hnext
    exact ih (wf_within hf ..) hnext (Body.closes_of_pull hd (hb.imp_right And.left) hpull) hout
  | ended ha _ hpull _ ih =>
    obtain ⟨t, hf, rfl⟩ := advance_eq_none hr ha
    have hnext := Body.isBuiltIn_pull hd
    rw [show Body.pull _ = _ from hpull] at hnext
    exact ih (wf_within hf [] true) hnext (.inr ⟨Body.finished_of_ended hpull, by simp [within]⟩) hout
  | fault => cases hout

end Stream.Reader

namespace Admin

theorem closes_negotiate (body : Body) (h : body.closes = 0) :
    match negotiate body with
    | .ok s => s.body.closes ≤ 1 ∧ (body.decoder.isBuiltIn = true → s.body.closes = 0)
    | .error (_, body) => body.closes = 1 := by
  have hcall := Reader.call_next .initial body
  have hle := hcall.closes_le (by omega)
  rw [negotiate]
  cases hnext : Reader.initial.next body with
  | mk reading rest =>
    rw [hnext] at hcall hle
    cases reading with
    | failed e => exact Body.closes_close hle
    | ended => exact Body.closes_close hle
    | document d =>
      dsimp only
      cases judge d with
      | error e => exact Body.closes_close hle
      | ok version =>
        exact ⟨hle, fun hd => hcall.closes_of_document Reader.wf_initial hd (.inl h) rfl⟩

theorem closes_refusal {r : Response} (h : r.body.closes = 0) : (refusal r).2.closes = 1 := by
  have hle : (r.body.readOctets ServerError.bodyLimit).2.closes ≤ 1 :=
    Body.closes_readOctets_le (by omega) _
  have hclosed : (ServerError.ofResponse r).2.body.closes = 1 := Body.closes_close hle
  rw [refusal]
  split
  · next he => rw [he] at hclosed; exact hclosed
  · next he => rw [he] at hclosed; exact hclosed

inductive Transport.Sends (t : Transport) (path : String) (prepared : Except Fault SentRequest) :
    Reply → Transport.Execution → Prop
  | unsendable : prepared = .error f → Sends t path prepared reply
      ⟨.error (.foreign f), none, [], []⟩
  | closed : t.isOpen = false → Sends t path prepared reply
      ⟨.error (.foreign Transport.closedFault), none, [], log⟩
  | failed : prepared = .ok request → Sends t path prepared (.fault f)
      ⟨.error (Transport.networkError path f), none, [request], log⟩
  | unusable : prepared = .ok request → Transport.checkLocation t.hosts request.url r = .error f →
      Sends t path prepared (.response r)
        ⟨.error (Transport.networkError path f), some r.body.close, [request], log⟩
  | received : prepared = .ok request → Transport.checkLocation t.hosts request.url r = .ok () →
      Sends t path prepared (.response r) ⟨.ok r, some r.body, [request], log⟩

theorem Transport.exists_of_prepare {t : Transport} {method path : String}
    {params : List (String × String)} {timeout : Option Quantity} {request : SentRequest}
    (h : t.prepare method path params timeout = .ok request) :
    ∃ u v, t.server.resolve t.hosts path = .ok u ∧ u.withQuery params = .ok v ∧
      request = ⟨Text.upper method, v, timeout.getD t.timeout,
        (userAuthorization? v).orElse fun _ => t.authorization⟩ := by
  obtain ⟨v, haddress, h⟩ := exists_of_bind_eq_ok h
  obtain ⟨_, -, h⟩ := exists_of_bind_eq_ok h
  obtain ⟨u, hresolve, hquery⟩ := exists_of_bind_eq_ok (mapError_eq_ok_iff.1 haddress)
  exact ⟨u, v, hresolve, hquery, (Except.ok.inj h).symm⟩

theorem Transport.sends_execute (t : Transport) (method path : String)
    (params : List (String × String)) (timeout : Option Quantity) (reply : Reply) :
    Sends t (t.requestPath path)
      (t.prepare method (t.requestPath path) (Entries.ofList params) timeout) reply
      (t.execute method path params timeout reply) := by
  rw [execute]
  dsimp only
  split
  · next h => exact .unsendable h
  · next h =>
    cases hopen : t.isOpen with
    | false => exact .closed hopen
    | true =>
      cases reply with
      | fault f => exact .failed h
      | response r =>
        simp only [if_true, receive]
        split
        · next hr => exact .received h hr
        · next hr => exact .unusable h hr

inductive Ends (r : Response) : Negotiation → Prop
  | unsent : Ends r ⟨.error (e, none), [], log⟩
  | unusable : Ends r ⟨.error (e, some r.body.close), sent, log⟩
  | refused : r.status ≠ 200 → refusal r = (e, body) → Ends r ⟨.error (e, some body), sent, log⟩
  | rejected : r.status = 200 → negotiate r.body = .error (e, body) →
      Ends r ⟨.error (e, some body), sent, log⟩
  | accepted : r.status = 200 → negotiate r.body = .ok s → Ends r ⟨.ok s, sent, log⟩

theorem Ends.closes_of_error {r : Response} {n : Negotiation} {e : Error} {body : Body}
    (h : Ends r n) (hr : r.body.closes = 0) (hn : n.result = .error (e, some body)) :
    body.closes = 1 := by
  cases h with
  | unsent => simp at hn
  | unusable =>
    obtain ⟨-, rfl⟩ : _ ∧ r.body.close = body := by simpa using hn
    exact Body.closes_close (hr ▸ Nat.zero_le 1)
  | @refused e' body' _ _ _ he =>
    obtain ⟨-, rfl⟩ : _ ∧ body' = body := by simpa using hn
    have hclosed := closes_refusal hr
    rw [he] at hclosed
    exact hclosed
  | @rejected e' body' _ _ _ he =>
    obtain ⟨-, rfl⟩ : _ ∧ body' = body := by simpa using hn
    have hclosed := closes_negotiate _ hr
    rw [he] at hclosed
    exact hclosed
  | accepted => simp at hn

theorem Ends.closes_of_ok {r : Response} {n : Negotiation} {s : HealthStream} (h : Ends r n)
    (hr : r.body.closes = 0) (hn : n.result = .ok s) : s.body.closes ≤ 1 := by
  cases h with
  | @accepted s' _ _ _ hs =>
    obtain rfl : s' = s := by simpa using hn
    have hopen := closes_negotiate _ hr
    rw [hs] at hopen
    exact hopen.1
  | _ => simp at hn

theorem Ends.negotiate {r : Response} {n : Negotiation} {s : HealthStream} (h : Ends r n)
    (hn : n.result = .ok s) : r.status = 200 ∧ Admin.negotiate r.body = .ok s := by
  cases h with
  | @accepted s' _ _ hstatus hs =>
    obtain rfl : s' = s := by simpa using hn
    exact ⟨hstatus, hs⟩
  | _ => simp at hn

theorem ends_requestHealthInfo (t : Transport) (types : List String) (deadline : Duration)
    (timeout : Option Quantity) (r : Response) :
    Ends r (requestHealthInfo t types deadline timeout (.response r)) := by
  rw [requestHealthInfo]
  split
  · exact .unsent
  · next types _ =>
    have hx := t.sends_execute "GET" healthInfoPath (query types deadline) timeout (.response r)
    dsimp only
    generalize t.execute "GET" healthInfoPath (query types deadline) timeout (.response r) = x at hx
    cases hx with
    | unsendable => exact .unsent
    | closed => exact .unsent
    | unusable => exact .unusable
    | received =>
      dsimp only
      split
      · next hstatus => exact .refused hstatus rfl
      · next hstatus =>
        split
        · next hn => exact .rejected (Decidable.not_not.1 hstatus) hn
        · next hn => exact .accepted (Decidable.not_not.1 hstatus) hn

/-- What has become of the body of a response with this status. Without one nothing was sent. -/
def Negotiation.Settled (n : Negotiation) (status : Nat) : Prop :=
  match n.result with
  | .ok s => status = 200 ∧ s.body.closes = 0 ∧ s.isClosed = false
  | .error (_, some body) => body.closes = 1
  | .error (_, none) => n.sent = []

theorem settled_requestHealthInfo {wire : Wire} {headers : Headers}
    (hd : (wire.decoder headers).isBuiltIn = true) (t : Transport) (types : List String)
    (deadline : Duration) (timeout : Option Quantity) (status : Nat) (reason : Option String)
    (chunks : List BodyChunk) :
    (requestHealthInfo t types deadline timeout
      (.response ⟨status, headers, reason, .ofChunks wire headers chunks⟩)).Settled status := by
  have hends := ends_requestHealthInfo t types deadline timeout
    ⟨status, headers, reason, .ofChunks wire headers chunks⟩
  have hn := closes_negotiate (.ofChunks wire headers chunks) rfl
  generalize requestHealthInfo t types deadline timeout (.response _) = n at hends
  cases hends with
  | unsent => rfl
  | unusable => exact Body.closes_close (by simp [Body.ofChunks])
  | refused hstatus he =>
    have hclosed := closes_refusal (r := ⟨status, headers, reason, .ofChunks wire headers chunks⟩) rfl
    rw [he] at hclosed
    exact hclosed
  | rejected hstatus he =>
    rw [he] at hn
    exact hn
  | @accepted s _ _ hstatus he =>
    rw [he] at hn
    have hcloses : s.body.closes = 0 := hn.2 hd
    have hopen : s.isClosed = false := by simp [HealthStream.isClosed, Body.isClosed, hcloses]
    exact ⟨hstatus, hcloses, hopen⟩

def localTransport : Transport :=
  ⟨.plain, ⟨"http", "", "localhost", some 9000, "", none, none⟩, "/admin", none, .whole 10, true⟩

def packedHeaders : Headers :=
  [("Content-Encoding", "gzip, deflate"), ("content-type", "application/json; charset=ISO-8859-1")]

-- Applied to this answer the conclusion would be computed, down to the octets of the request.
attribute [local irreducible] Negotiation.Settled in
theorem settled_requestHealthInfo_packed :
    (Wire.plain.decoder packedHeaders).isBuiltIn = true ∧
      (requestHealthInfo localTransport ["syscpu"] ⟨60000000, by decide, by decide⟩ none
        (.response ⟨200, packedHeaders, none,
          .ofChunks .plain packedHeaders [.octets [0x7b]]⟩)).Settled 200 := by
  have hd : (Wire.plain.decoder packedHeaders).isBuiltIn = true := by decide +kernel
  exact ⟨hd, settled_requestHealthInfo hd localTransport ["syscpu"] ⟨60000000, by decide, by decide⟩
    none 200 none [.octets [0x7b]]⟩

end Admin

end ClusterHealth

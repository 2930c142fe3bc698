import ClusterHealth.Proofs.Admin.Delivery
import ClusterHealth.Proofs.Report.EnvelopeLaws

namespace ClusterHealth

open ClusterHealth.Report ClusterHealth.Stream ClusterHealth.Web
open Entries (get?)

namespace Report

theorem SaysVersion.unique {d : Members} {v v' : AnyText} (h : SaysVersion d v)
    (h' : SaysVersion d v') : v = v' := by
  cases h <;> cases h' <;> simp_all

theorem SaysError.unique {d : Members} {e e' : Option AnyText} (h : SaysError d e)
    (h' : SaysError d e') : e = e' := by
  cases h <;> cases h' <;> simp_all

def SaysNoError (d : Members) : Prop := SaysError d none ∨ SaysError d (some "")

end Report

namespace Admin

inductive Judged (d : Members) : Except Error AnyText → Prop
  | envelope : (∀ v e, SaysVersion d v → ¬ SaysError d e) → Judged d (.error .envelope)
  | application : SaysVersion d v → SaysError d (some text) → text ≠ "" →
      Judged d (.error (.application text))
  | version : SaysVersion d v → SaysNoError d → v ≠ "" → v ≠ "1" → Judged d (.error (.version v))
  | accepted : SaysVersion d v → SaysNoError d → v = "" ∨ v = "1" → Judged d (.ok v)

theorem Judged.unique {d : Members} {outcome outcome' : Except Error AnyText}
    (h : Judged d outcome) (h' : Judged d outcome') : outcome = outcome' := by
  cases h <;> cases h' <;> grind [SaysVersion.unique, SaysError.unique, SaysNoError]

inductive Answers (text : List Char) : Except Error AnyText → Prop
  | judged : Opens text d → Answers text (judge d)
  | unreadable : (∀ d, ¬ Opens text d) → Answers text (.error (.reading e))
  | empty : (∀ d, ¬ Opens text d) → Answers text (.error .emptyBody)

theorem answers_negotiate (wire : Wire) (headers : Headers) (chunks : List BodyChunk) :
    match negotiate (.ofChunks wire headers chunks) with
    | .ok s => Answers (Body.text wire headers chunks) (.ok s.version)
    | .error (e, _) => Answers (Body.text wire headers chunks) (.error e) := by
  have hopened := opened_negotiate wire headers chunks
  have hopens {d : Members} := Ahead.next_eq_document_iff (d := d)
    (a := Reader.initial.ahead (Body.ofChunks wire headers chunks))
  rw [text_initial_ahead] at hopens
  generalize negotiate (.ofChunks wire headers chunks) = outcome at hopened ⊢
  cases hopened with
  | failed h => exact .unreadable fun d hd => by simp [hopens.2 hd] at h
  | ended h => exact .empty fun d hd => by simp [hopens.2 hd] at h
  | judged h hj =>
    have := Answers.judged (hopens.1 h)
    rwa [hj] at this
  | accepted h hj =>
    have := Answers.judged (hopens.1 h)
    rwa [hj] at this

theorem checkLocation_of_success {r : Response} (h : r.status = 200) (hosts : HostNames) (request : Url) :
    Transport.checkLocation hosts request r = .ok () := by
  unfold Transport.checkLocation
  split
  · simp [h, Transport.isRedirect, pure, Except.pure]
  · rfl

theorem result_of_success (t : Transport) (types : List String) (deadline : Duration)
    (timeout : Option Quantity) {r : Response} (hstatus : r.status = 200)
    (hsent : (requestHealthInfo t types deadline timeout (.response r)).sent ≠ []) :
    (requestHealthInfo t types deadline timeout (.response r)).result =
      (negotiate r.body).mapError fun (e, body) => (e, some body) := by
  revert hsent
  rw [requestHealthInfo]
  split
  · simp
  · next kinds _ =>
    have hx := t.sends_execute "GET" healthInfoPath (query kinds deadline) timeout (.response r)
    dsimp only
    generalize t.execute "GET" healthInfoPath (query kinds deadline) timeout (.response r) = x at hx
    cases hx with
    | unsendable => simp
    | closed => simp
    | unusable _ hplace =>
      rw [checkLocation_of_success hstatus] at hplace
      cases hplace
    | received =>
      rcases hn : negotiate r.body with ⟨e, body⟩ | s <;> simp [hstatus, hn, Except.mapError]

def Session.Answered (s : Session) (wire : Wire) (headers : Headers) (chunks : List BodyChunk)
    (outcome : Except Error AnyText) (s' : Session) : Prop :=
  ∃ types deadline timeout reason sent,
    s.request types deadline timeout (.response ⟨200, headers, reason, .ofChunks wire headers chunks⟩) =
      (outcome, sent, s') ∧ sent ≠ []

namespace Session.Answered

variable {s s' : Session} {wire : Wire} {headers : Headers} {chunks : List BodyChunk}
  {outcome : Except Error AnyText}

theorem answers (h : s.Answered wire headers chunks outcome s') :
    Answers (Body.text wire headers chunks) outcome ∧
      s'.stream.map (·.version) = outcome.toOption := by
  obtain ⟨types, deadline, timeout, reason, sent, h, hsent⟩ := h
  have hn := answers_negotiate wire headers chunks
  have hresult := result_of_success s.transport types deadline timeout
    (r := ⟨200, headers, reason, .ofChunks wire headers chunks⟩) rfl
  rw [Session.request] at h
  generalize requestHealthInfo s.transport types deadline timeout _ = n at h hresult
  obtain ⟨result, sent', log⟩ := n
  rcases result with ⟨e, body⟩ | stream
  · cases h
    rcases hx : negotiate (.ofChunks wire headers chunks) with ⟨e', body'⟩ | stream
    · rw [hx] at hn hresult
      obtain ⟨rfl, -⟩ : e = e' ∧ _ := by simpa [Except.mapError] using hresult hsent
      exact ⟨hn, rfl⟩
    · simp [hx, Except.mapError, hsent] at hresult
  · cases h
    rcases hx : negotiate (.ofChunks wire headers chunks) with ⟨e', body'⟩ | stream'
    · simp [hx, Except.mapError, hsent] at hresult
    · rw [hx] at hn hresult
      obtain rfl : stream = stream' := by simpa [Except.mapError] using hresult hsent
      exact ⟨hn, rfl⟩

end Session.Answered

end Admin

end ClusterHealth

import ClusterHealth.CommandLine.Run
import ClusterHealth.Proofs.Admin.Accounting
import ClusterHealth.Proofs.Admin.Negotiation

namespace ClusterHealth

open ClusterHealth.Admin ClusterHealth.Report ClusterHealth.Stream ClusterHealth.Web

namespace CommandLine

variable {hosts : HostNames} {s : Settings} {types : List DataType} {deadline : Duration} {reply : Reply}
  {t : Transport} {n : Negotiation} {e : Error} {log : List LogRecord} {sent : List SentRequest}
  {r : Requested}

def asked (t : Transport) (s : Settings) (types : List DataType) (deadline : Duration)
    (reply : Reply) : Negotiation :=
  requestHealthInfo t (types.map DataType.name) deadline
    (some (.decimal (requestTimeout s deadline))) reply

def Raises (n : Negotiation) (e : Error) : Prop :=
  (∃ body, n.result = .error (e, body)) ∨ ∃ stream, n.result = .ok stream ∧ stream.read.1 = .error e

inductive Delivers : Arrival → Option Body → String → Prop
  | report {wire : Wire} {headers : Headers} {reason : Option String} {chunks : List BodyChunk} {b : Body}
      {first last : Members} {ds : List Members} {version : AnyText} {text : String} {report : HealthInfo}
      (octets : ∀ c ∈ chunks, ∃ bs, c = .octets bs) (pulled : b.pulled = chunks.length)
      (finished : b.finished = true) (faultless : Body.fault? wire headers chunks = none)
      (documents : Holds (Body.text wire headers chunks) (first :: ds))
      (negotiated : Judged first (.ok version)) (last_eq : (first :: ds).getLast? = some last)
      (valid : HealthInfo.ofJson (.obj last) = .ok report) (rendered : report.render = .ok text) :
      Delivers (.response 200 wire headers reason chunks) (some b) (text ++ "\n")

inductive Concludes (n : Negotiation) (o : Outcome) : Prop
  | failed {e : Error} {c : Category} (raised : Raises n e) (category : e.category? = some c)
      (status : o.status = .ok 1) (stdout : o.stdout = "")
  | escaped {e : Error} {f : Failure} (raised : Raises n e) (category : e.category? = none)
      (status : o.status = .error f) (stdout : o.stdout = "")
  | printed {text : String} (none_raised : ∀ e, ¬ Raises n e) (status : o.status = .ok 0)
      (stdout : o.stdout = text ++ "\n")
  | unwritten {f : Failure} (none_raised : ∀ e, ¬ Raises n e) (status : o.status = .error f)
      (stdout : o.stdout = "")

theorem Raises.unique {e' : Error} (h : Raises n e) (h' : Raises n e') : e = e' := by
  obtain ⟨body, hn⟩ | ⟨stream, hn, hread⟩ := h
  · obtain ⟨body', hn'⟩ | ⟨stream', hn', -⟩ := h'
    · exact (Prod.mk.inj (Except.error.inj (hn.symm.trans hn'))).1
    · simp [hn] at hn'
  · obtain ⟨body', hn'⟩ | ⟨stream', hn', hread'⟩ := h'
    · simp [hn] at hn'
    · obtain rfl := Except.ok.inj (hn.symm.trans hn')
      exact Except.error.inj (hread.symm.trans hread')

namespace Concludes

variable {o : Outcome}

theorem status_eq (h : Concludes n o) {k : Nat} (hk : o.status = .ok k) : k = 0 ∨ k = 1 := by
  cases h with
  | failed _ _ hstatus => exact .inr (Except.ok.inj (hk.symm.trans hstatus))
  | printed _ hstatus => exact .inl (Except.ok.inj (hk.symm.trans hstatus))
  | escaped _ _ hstatus | unwritten _ hstatus => cases hk.symm.trans hstatus

theorem not_raises (h : Concludes n o) (hstatus : o.status = .ok 0) (e : Error) : ¬ Raises n e := by
  cases h with
  | printed hnone => exact hnone e
  | failed _ _ hs | escaped _ _ hs | unwritten _ hs => cases hstatus.symm.trans hs

end Concludes

namespace Ways

end Ways

section Arrivals

variable {status : Nat} {wire : Wire} {headers : Headers} {reason : Option String} {chunks : List BodyChunk}
  {stream : HealthStream} {body : Option Body} {b : Body}

end Arrivals

end CommandLine

end ClusterHealth

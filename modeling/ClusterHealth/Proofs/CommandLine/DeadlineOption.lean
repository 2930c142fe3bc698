import ClusterHealth.Proofs.Admin.Asking
import ClusterHealth.Proofs.Admin.Destination
import ClusterHealth.Proofs.Admin.Limits
import ClusterHealth.Proofs.CommandLine.SnapshotAgreement
import ClusterHealth.Proofs.CommandLine.WholeReport
import ClusterHealth.Proofs.DurationText

namespace ClusterHealth

open ClusterHealth.Admin ClusterHealth.Text ClusterHealth.Web
open DataType (exactly_names)

namespace CommandLine

section Arguments

end Arguments

section Runs

variable {argv : List String} {w : World} {hosts : HostNames} {a : Arguments} {types : List DataType}
  {s : Settings} {t : Transport} {d : Duration} {x : Binary64} {reply : Reply} {r : Requested}
  {request : SentRequest}

def asking (t : Transport) (s : Settings) (types : List DataType) (d : Duration) :
    Except Fault SentRequest :=
  t.asking types d (some (.decimal (requestTimeout s d)))

/-- What a run for a report comes to, by its deadline: one that is no duration is not sent, like one
whose address cannot be built, and any other one is sent as it is. -/
inductive Settles (t : Transport) (s : Settings) (types : List DataType) (x : Binary64) (reply : Reply)
    (o : Outcome) : Prop
  | unmeasured {e : Duration.Error} : Duration.ofSeconds x = .error e →
      o.status = .error (.deadline e) → o.sent = [] → Settles t s types x reply o
  | unsendable {d : Duration} {f : Fault} : Duration.ofSeconds x = .ok d →
      asking t s types d = .error f → f.kind = .invalidUrl ∨ f.kind = .unencodable →
      o.status = .error (.foreign f) → o.sent = [] → Settles t s types x reply o
  | sent {d : Duration} {request : SentRequest} {form : String} : Duration.ofSeconds x = .ok d →
      o.sent = [request] → request.method = "GET" → request.url.query = some form →
      parseForm form = query types d → (t.Bears request.url reply → o.status = .ok 0 ∨ o.status = .ok 1) →
      Settles t s types x reply o

theorem Settles.under {o : Outcome} (h : Settles t s types x reply o) (root : LogRoot) :
    Settles t s types x reply (o.under root) := by
  cases h with
  | unmeasured hx hstatus hsent => exact .unmeasured hx hstatus hsent
  | unsendable hx hasked hf hstatus hsent => exact .unsendable hx hasked hf hstatus hsent
  | sent hx hsent hmethod hquery hform hstatus => exact .sent hx hsent hmethod hquery hform hstatus

end Runs

end CommandLine

end ClusterHealth

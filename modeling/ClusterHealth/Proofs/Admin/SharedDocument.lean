import ClusterHealth.Proofs.Admin.Completeness
import ClusterHealth.Proofs.Admin.Negotiation

namespace ClusterHealth

open ClusterHealth.Report ClusterHealth.Stream ClusterHealth.Web
open Entries (get?)

namespace Stream

open Framing

theorem front_of_holds {text : List Char} {d : Members} (h : Holds text [d]) :
    ∃ p rest, front text = .piece p rest ∧ Json.decode (String.ofList p) = .ok (.obj d) ∧
      (front rest).reading = .ended := by
  have hframes := (frames_eq_iff_holds text [d]).2 h
  simp only [List.length_singleton, frames, List.map_singleton, List.cons_append, List.nil_append,
    List.cons.injEq, and_true] at hframes
  obtain ⟨p, rest, hf, hd⟩ := (reading_eq_document_iff ..).1 hframes.1
  refine ⟨p, rest, hf, hd, ?_⟩
  simpa [hf, Front.rest] using hframes.2

end Stream

namespace Admin

open Framing

namespace HealthStream

theorem reading_next {s : HealthStream} (hfits : s.reader.Fits s.body) (hfirst : s.first = none) :
    s.next.1 = s.ahead.next.1 := by
  have hnext := steps_next hfits
  generalize s.next = out at hnext
  cases hnext with
  | first h => simp [hfirst] at h
  | call _ _ _ hx => exact hx

theorem read_of_first {s : HealthStream} {d : Members} (hfits : s.reader.Fits s.body)
    (hfirst : s.first = some d) (hend : s.ahead.next.1 = .ended) :
    s.read.1 = (HealthInfo.ofJson (.obj d)).mapError fun _ => .report := by
  have hnext : s.next = (.document d, ⟨s.version, s.body, s.reader, none⟩) := by
    rw [next, hfirst]
  have hlast := reading_next (s := ⟨s.version, s.body, s.reader, none⟩) hfits rfl
  have hdrains : Drains s [d] none _ := .document hnext (.ended (Prod.ext (hlast.trans hend) rfl))
  obtain ⟨last, hall, -⟩ := drains_readAll hfits
  obtain ⟨hds, he⟩ := hall.unique hdrains
  rw [read]
  rcases hr : s.readAll with ⟨ds, e, s'⟩
  rw [hr] at hds he
  obtain rfl : ds = [d] := hds
  obtain rfl : e = none := he
  cases hj : HealthInfo.ofJson (.obj d) <;> simp [hj, Except.mapError]

end HealthStream

theorem read_of_oneDocument {wire : Wire} {headers : Headers} {chunks : List BodyChunk} {d : Members}
    {s : HealthStream} (hfault : Body.fault? wire headers chunks = none)
    (hbody : Holds (Body.text wire headers chunks) [d])
    (h : negotiate (.ofChunks wire headers chunks) = .ok s) :
    s.read.1 = (HealthInfo.ofJson (.obj d)).mapError fun _ => .report := by
  obtain ⟨p, rest, hf, hd, hend⟩ := front_of_holds hbody
  obtain ⟨d', p', rest', -, hfirst, hf', hd', hfits, hahead⟩ := front_of_negotiate h
  obtain ⟨rfl, rfl⟩ : p = p' ∧ rest = rest' := by simpa [hf] using hf'
  obtain rfl : d = d' := by simpa [hd] using hd'
  refine HealthStream.read_of_first hfits hfirst ?_
  rw [HealthStream.ahead, hahead, Body.fault_script_ofChunks, hfault]
  exact hend

structure Shared (d : Members) (e : Envelope) : Prop where
  kept : namesPlain d = true → HealthInfo.ReadsNoMore d → d.get? "version" ≠ some .null →
    ∃ r, HealthInfo.ofJson (.obj d) = .ok r ∧ r.member? "version" = some (.text e.version) ∧
      r.member? "error" = some (errorValue e.error)
  refused : namesPlain d = true → HealthInfo.ReadsNoMore d → d.get? "version" = some .null →
    HealthInfo.ofJson (.obj d) = .error [⟨["version"], .stringType⟩]
  unnamed : ¬namesPlain d = true → HealthInfo.ofJson (.obj d) = .error [⟨[], .stringUnicode⟩]
  placed : ∀ es, HealthInfo.ofJson (.obj d) = .error es → ∀ x ∈ es,
    x.path.head? ≠ some "error" ∧ (x.path.head? = some "version" → d.get? "version" = some .null)

theorem shared_of_envelope {d : Members} {e : Envelope} (h : Envelope.ofMembers d = .ok e) :
    Shared d e ∧
      ∀ (s s' : Session) (types : List String) (deadline : Duration) (timeout : Option Quantity)
        (status : Nat) (wire : Wire) (headers : Headers) (reason : Option String) (chunks : List BodyChunk)
        (version : AnyText) (sent : List SentRequest),
        s.request types deadline timeout
          (.response ⟨status, headers, reason, .ofChunks wire headers chunks⟩) = (.ok version, sent, s') →
        Body.fault? wire headers chunks = none → Holds (Body.text wire headers chunks) [d] →
        ∃ stream, s'.stream = some stream ∧
          stream.read.1 = (HealthInfo.ofJson (.obj d)).mapError fun _ => .report := by
  refine ⟨⟨HealthInfo.ofJson_of_readsNoMore h, HealthInfo.ofJson_of_null h, HealthInfo.ofJson_of_broken,
    fun es hes x hx => HealthInfo.path_of_ofJson_eq_error h hes hx⟩, ?_⟩
  intro s s' types deadline timeout status wire headers reason chunks version sent hrequest hfault hbody
  obtain ⟨stream, -, hn, -, rfl⟩ := negotiate_of_request hrequest
  exact ⟨stream, rfl, read_of_oneDocument hfault hbody hn⟩

theorem shared_of_envelope_text :
    Envelope.ofMembers [("version", .str "1"), ("error", .null)] = .ok ⟨"1", none⟩ ∧
      Shared [("version", .str "1"), ("error", .null)] ⟨"1", none⟩ := by
  have h : Envelope.ofMembers [("version", .str "1"), ("error", .null)] = .ok ⟨"1", none⟩ := rfl
  exact ⟨h, (shared_of_envelope h).1⟩

theorem not_accepted_null :
    HealthInfo.ReadsNoMore [("version", .null)] ∧
      Envelope.ofMembers [("version", .null)] = .ok ⟨"", none⟩ ∧
      ¬ ∃ r, HealthInfo.ofJson (.obj [("version", .null)]) = .ok r := by
  have hmore : HealthInfo.ReadsNoMore [("version", .null)] := by
    intro name hname _
    exact .inl (by simpa [Entries.names] using hname)
  have h : Envelope.ofMembers [("version", .null)] = .ok ⟨"", none⟩ := rfl
  refine ⟨hmore, h, ?_⟩
  rintro ⟨r, hr⟩
  rw [HealthInfo.ofJson_of_null h rfl hmore rfl] at hr
  cases hr

end Admin

end ClusterHealth

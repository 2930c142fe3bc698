import ClusterHealth.Proofs.Admin.Negotiation
import ClusterHealth.Proofs.Query
import ClusterHealth.Proofs.Web.Consumption

namespace ClusterHealth

open ClusterHealth.Report ClusterHealth.Stream ClusterHealth.Web

namespace Admin

open DataType (exactly_names)
open Framing

def Overtaxes (text : String) : Prop :=
  (∃ n, Json.decode text = .error (.tooManyDigits n)) ∨ ∃ c, Json.decode text = .error (.tooDeep c)

def IsNetwork (f : Fault) : Prop := f.family = .transport ∨ f.family = .timeout

def AreOrdinary (chunks : List BodyChunk) : Prop :=
  ∀ f, .fault f ∈ chunks → IsNetwork f ∨ f.kind = .decoding

def IsForeign (f : Fault) : Prop := ¬ (IsNetwork f ∨ f.family = .http ∨ f.family = .stream)

theorem category_ofFault (f : Fault) :
    (Error.readCategory? (.ofFault f) = none ↔ IsForeign f) ∧
      Error.readCategory? (.ofFault f) ≠ some .server := by
  rw [IsForeign, IsNetwork, ReadError.ofFault]
  cases f.family <;> simp [Error.readCategory?]

theorem category_verdict {text : String} {e : ReadError} (h : verdict (Json.decode text) = .failed e) :
    (Error.readCategory? e = none ↔ Overtaxes text) ∧ Error.readCategory? e ≠ some .server := by
  rw [Overtaxes]
  rcases hd : Json.decode text with (_ | _ | _) | v
  all_goals rw [hd] at h
  · cases h
    simp [Error.readCategory?]
  · cases h
    simp [Error.readCategory?]
  · cases h
    simp [Error.readCategory?]
  · cases v <;> cases h <;> simp [Error.readCategory?]

def OpensBeyond (text : List Char) : Prop :=
  ∃ p rest, front text = .piece p rest ∧ Overtaxes (String.ofList p)

def BreaksBeyond (text : List Char) (fault : Option Fault) : Prop :=
  (∃ t, front text = .short t) ∧ ∃ f, fault = some f ∧ IsForeign f

theorem category_of_next {a : Ahead} {e : ReadError} (h : a.next.1 = .failed e) :
    (Error.readCategory? e = none ↔ OpensBeyond a.text ∨ BreaksBeyond a.text a.fault) ∧
      Error.readCategory? e ≠ some .server := by
  rw [OpensBeyond, BreaksBeyond]
  cases hf : front a.text with
  | piece p rest =>
    rw [Ahead.next_of_piece hf] at h
    obtain ⟨hnone, hserver⟩ := category_verdict h
    exact ⟨hnone.trans (by simp), hserver⟩
  | stray t =>
    rw [Ahead.next_of_stray hf] at h
    cases h
    simp [Error.readCategory?]
  | short t =>
    obtain ⟨text, _ | f⟩ := a
    · cases t with
      | nil => simp [Ahead.next, hf, Front.reading] at h
      | cons c t =>
        obtain rfl : ReadError.unfinished = e := by simpa [Ahead.next, hf, Front.reading] using h
        simp [Error.readCategory?]
    · obtain rfl : .ofFault f = e := by simpa [Ahead.next, hf] using h
      obtain ⟨hnone, hserver⟩ := category_ofFault f
      simp [hnone, hserver]

def Startles (wire : Wire) (headers : Headers) (chunks : List BodyChunk) : Prop :=
  OpensBeyond (Body.text wire headers chunks) ∨
    BreaksBeyond (Body.text wire headers chunks) (Body.fault? wire headers chunks)

def RefusesBeyond (r : Response) : Prop :=
  ∃ text, (ServerError.bodyText r).1 = .ok text ∧ text ≠ "" ∧ Overtaxes text

theorem document_cases (text : String) :
    (text ≠ "" ∧ Overtaxes text) ∧ (∃ f, ServerError.document text = .error f) ∨
      ¬ (text ≠ "" ∧ Overtaxes text) ∧ ∃ d, ServerError.document text = .ok d := by
  rw [ServerError.document, Overtaxes]
  by_cases hempty : text = ""
  · simp [hempty]
  · rcases hd : Json.decode text with (_ | _ | _) | v
    · simp [hempty]
    · simp [hempty]
    · simp [hempty]
    · cases v <;> simp [hempty]

theorem ofText_cases (r : Response) (text : String) :
    (text ≠ "" ∧ Overtaxes text) ∧ (∃ f, ServerError.ofText r text = .error f) ∨
      ¬ (text ≠ "" ∧ Overtaxes text) ∧ ∃ x, ServerError.ofText r text = .ok x ∧ x.status = r.status := by
  rw [ServerError.ofText]
  obtain ⟨hover, f, hf⟩ | ⟨hover, d, hd⟩ := document_cases text
  · exact .inl ⟨hover, f, by rw [hf]; rfl⟩
  · refine .inr ⟨hover, ?_⟩
    rw [hd]
    cases d <;> exact ⟨_, rfl, rfl⟩

namespace Transport

def asking (t : Transport) (types : List DataType) (deadline : Duration) (timeout : Option Quantity) :
    Except Fault SentRequest :=
  t.prepare "GET" (t.requestPath healthInfoPath) (Entries.ofList (query types deadline)) timeout

/-- A reply to a request for this address that leaves the client without an error of its own: the decoder
gives up on it, its charset fails, or the place that it names makes no request. -/
inductive Escapes (t : Transport) (url : Url) : Reply → Prop
  | opening : r.status = 200 → r.body = .ofChunks wire r.headers chunks →
      Startles wire r.headers chunks → Escapes t url (.response r)
  | misdirected : checkLocation t.hosts url r = .error f → ¬ IsNetwork f → Escapes t url (.response r)
  | refusal : r.status ≠ 200 → checkLocation t.hosts url r = .ok () → RefusesBeyond r →
      Escapes t url (.response r)

inductive Tells (t : Transport) (url : Url) : Reply → Error → Prop
  | fault : e.category? = some .timeout ∨ e.category? = some .transport → Tells t url (.fault f) e
  | misdirected : checkLocation t.hosts url r = .error f → IsNetwork f →
      e.category? = some .timeout ∨ e.category? = some .transport → Tells t url (.response r) e
  | refused : r.status ≠ 200 → x.status = r.status → Tells t url (.response r) (.server x)
  | rejected : r.status = 200 → e.category? ≠ some .server → Tells t url (.response r) e

end Transport

section Typed

variable {t : Transport} {url : Url} {request : SentRequest} {asked : Except Fault SentRequest}
  {r : Response} {wire : Wire} {chunks : List BodyChunk} {sent : List SentRequest}
  {log : List LogRecord}

example : Transport.checkLocation .plain ⟨"http", "", "h", none, "/x", none, none⟩
    ⟨302, [("Location", "mailto:foo")], none, .ofChunks .plain [] []⟩ =
      .error ⟨.invalidUrl, "For absolute URLs, path must be empty or begin with '/'"⟩ := by
  decide +kernel

end Typed

end Admin

end ClusterHealth

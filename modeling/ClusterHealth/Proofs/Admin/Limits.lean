import ClusterHealth.Proofs.Admin.Categories
import ClusterHealth.Proofs.Admin.Completeness
import ClusterHealth.Proofs.Report.FixedPoint

namespace ClusterHealth

open ClusterHealth.Report ClusterHealth.Stream ClusterHealth.Web
open DataType (exactly_names)

namespace Stream

open Framing

theorem Framing.mem_pieces_of_front {t p rest : List Char} (h : front t = .piece p rest) :
    p ∈ pieces t := by
  rw [pieces_eq, h]
  exact List.mem_cons_self

theorem Framing.pieces_rest_subset (t : List Char) : pieces (front t).rest ⊆ pieces t := by
  cases hf : front t with
  | piece p rest =>
    rw [pieces_eq t, hf]
    exact List.subset_cons_self p _
  | stray u | short u =>
    have hrest := front_rest (t := t) (by simp [hf])
    rw [hf] at hrest
    rw [pieces_eq, hrest]
    exact List.nil_subset _

theorem Ahead.fault_of_next {a : Ahead} {f : Fault} (h : a.next.2.fault = some f) : a.fault = some f := by
  revert h
  fun_cases Ahead.next a <;> simp_all

end Stream

namespace Admin

open Framing

structure Modest (p : List Char) : Prop where
  decoded : ¬ Overtaxes (String.ofList p)
  printed : ∀ d, Json.decode (String.ofList p) = .ok (.obj d) →
    (Json.obj d).depth ≤ HealthInfo.depthLimit ∧ (Json.obj d).isPlain = true

/-- A reply that the client does not leave without an error of its own, with a body of modest pieces up to
its end or to a fault of reading. -/
inductive Transport.Bears (t : Transport) (url : Url) : Reply → Prop
  | fault : IsNetwork f → Bears t url (.fault f)
  | response : r.body = .ofChunks wire r.headers chunks → AreOrdinary chunks →
      ¬ t.Escapes url (.response r) →
      (r.status = 200 → (∀ p ∈ pieces (Body.text wire r.headers chunks), Modest p) ∧
        ∀ f, Body.fault? wire r.headers chunks = some f → ¬ IsForeign f) →
      Bears t url (.response r)

namespace HealthStream

variable {s last : HealthStream} {ds : List Members} {e : ReadError}

structure Tame (s : HealthStream) : Prop where
  fits : s.reader.Fits s.body
  fault : ∀ f, s.ahead.fault = some f → ¬ IsForeign f
  pieces : ∀ p ∈ pieces s.ahead.text, Modest p

theorem Steps.tame {out : Reading × HealthStream} (h : s.Steps out) (hs : s.Tame) : out.2.Tame := by
  have hfits := h.fits hs.fits
  cases h with
  | first => exact ⟨hfits, hs.fault, hs.pieces⟩
  | call _ _ _ _ hahead =>
    refine ⟨hfits, fun f hf => hs.fault f ?_, fun p hp => hs.pieces p ?_⟩
    · rw [HealthStream.ahead, hahead] at hf
      exact Ahead.fault_of_next hf
    · rw [HealthStream.ahead, hahead, Ahead.text_next] at hp
      exact pieces_rest_subset _ hp

theorem Steps.category (h : s.Steps (.failed e, last)) (hs : s.Tame) :
    Error.readCategory? e ≠ none := by
  cases h with
  | call _ _ _ hx _ =>
    rw [Ne, (category_of_next hx.symm).1]
    rintro (⟨p, rest, hf, hover⟩ | ⟨-, f, hf, hforeign⟩)
    · exact (hs.pieces p (mem_pieces_of_front hf)).decoded hover
    · exact hs.fault f hf hforeign

theorem Drains.category {e : Option ReadError} (h : Drains s ds e last) (hs : s.Tame) :
    ∀ e' ∈ e, Error.readCategory? e' ≠ none := by
  have hstep := steps_next hs.fits
  induction h with
  | document hn _ ih =>
    rw [hn] at hstep
    have htame := hstep.tame hs
    exact ih htame (steps_next htame.fits)
  | ended => simp
  | failed hn =>
    rw [hn] at hstep
    simpa using hstep.category hs

end HealthStream

section Reads

variable {wire : Wire} {headers : Headers} {chunks : List BodyChunk} {stream : HealthStream}

end Reads

section Requests

variable {t : Transport} {types : List DataType} {deadline : Duration} {timeout : Option Quantity}
  {request : SentRequest} {reply : Reply}

end Requests

end Admin

end ClusterHealth

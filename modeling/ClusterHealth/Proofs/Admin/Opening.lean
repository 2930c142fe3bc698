import ClusterHealth.Admin.Session
import ClusterHealth.Proofs.Stream.Pieces
import ClusterHealth.Proofs.Web.BodyLaws

namespace ClusterHealth

open ClusterHealth.Stream ClusterHealth.Web

namespace Stream

open Framing

def Opens (text : List Char) (d : Members) : Prop :=
  ∃ p rest, front text = .piece p rest ∧ Json.decode (String.ofList p) = .ok (.obj d)

theorem Opens.unique {text : List Char} {d d' : Members} (h : Opens text d) (h' : Opens text d') :
    d = d' := by
  obtain ⟨p, rest, hf, hd⟩ := h
  obtain ⟨p', rest', hf', hd'⟩ := h'
  obtain ⟨rfl, rfl⟩ : p = p' ∧ rest = rest' := by simpa [hf] using hf'
  simpa [hd] using hd'

theorem Ahead.next_eq_document_iff {a : Ahead} {d : Members} :
    a.next.1 = .document d ↔ Opens a.text d := by
  constructor
  · intro h
    obtain ⟨p, rest, hf⟩ := exists_piece_of_next h
    rw [next_of_piece hf] at h
    exact ⟨p, rest, hf, (verdict_eq_document_iff _ _).1 h⟩
  · rintro ⟨p, rest, hf, hd⟩
    rw [next_of_piece hf]
    exact (verdict_eq_document_iff _ _).2 hd

end Stream

namespace Admin

inductive Opened (a : Ahead) : Except (Error × Body) HealthStream → Prop
  | failed : a.next.1 = .failed e → Opened a (.error (.reading e, body))
  | ended : a.next.1 = .ended → Opened a (.error (.emptyBody, body))
  | judged : a.next.1 = .document d → judge d = .error e → Opened a (.error (e, body))
  | accepted : a.next.1 = .document d → judge d = .ok version → reader.Fits body →
      reader.ahead body = a.next.2 → Opened a (.ok ⟨version, body, reader, some d⟩)

theorem opened_negotiate (wire : Wire) (headers : Headers) (chunks : List BodyChunk) :
    Opened (Reader.initial.ahead (Body.ofChunks wire headers chunks))
      (negotiate (.ofChunks wire headers chunks)) := by
  have hn := Reader.next_agrees (r := .initial) (s := Body.ofChunks wire headers chunks)
    ⟨Reader.wf_initial, by simp [Reader.initial]⟩
  rw [negotiate]
  rcases hnext : Reader.initial.next (Body.ofChunks wire headers chunks) with ⟨reading, reader, body⟩
  rw [hnext] at hn
  obtain ⟨hreading, hfits, hahead⟩ := hn
  cases reading with
  | failed e => exact .failed hreading.symm
  | ended => exact .ended hreading.symm
  | document d =>
    dsimp only
    cases hj : judge d with
    | error e => exact .judged hreading.symm hj
    | ok version => exact .accepted hreading.symm hj hfits hahead

theorem text_initial_ahead (wire : Wire) (headers : Headers) (chunks : List BodyChunk) :
    (Reader.initial.ahead (Body.ofChunks wire headers chunks)).text = Body.text wire headers chunks :=
  Body.text_script_ofChunks ..

theorem front_of_negotiate {wire : Wire} {headers : Headers} {chunks : List BodyChunk} {s : HealthStream}
    (h : negotiate (.ofChunks wire headers chunks) = .ok s) :
    ∃ d p rest, judge d = .ok s.version ∧ s.first = some d ∧
      Framing.front (Body.text wire headers chunks) = .piece p rest ∧
      Json.decode (String.ofList p) = .ok (.obj d) ∧ s.reader.Fits s.body ∧
      s.reader.ahead s.body =
        ⟨rest, (Ahead.ofChunks (Body.script (.ofChunks wire headers chunks))).fault⟩ := by
  have hopened := opened_negotiate wire headers chunks
  rw [h] at hopened
  cases hopened with
  | @accepted d version body reader hd hj hfits hahead =>
    obtain ⟨p, rest, hf, hdecode⟩ := Ahead.next_eq_document_iff.1 hd
    rw [Ahead.next_of_piece hf] at hahead
    rw [text_initial_ahead] at hf
    exact ⟨d, p, rest, hj, rfl, hf, hdecode, hfits, hahead⟩

end Admin

end ClusterHealth

import ClusterHealth.Proofs.Admin.Categories
import ClusterHealth.Proofs.Web.BoundedReading

namespace ClusterHealth.Admin

open ClusterHealth.Text ClusterHealth.Web ClusterHealth.Web.Body

namespace ServerError

variable {r r' : Response} {chunks : List BodyChunk} {cut cut' : List (List UInt8)}

theorem bodyLimit_pos : 0 < bodyLimit := by decide

def Breaks (r : Response) (chunks : List BodyChunk) (f : Fault) : Prop :=
  opening bodyLimit (unpacked r.headers.unpackers chunks) = .error f ∧ (IsNetwork f ∨ f.family = .http)

def Startles (r : Response) (chunks : List BodyChunk) (f : Fault) : Prop :=
  opening bodyLimit (unpacked r.headers.unpackers chunks) = .error f ∧ ¬ (IsNetwork f ∨ f.family = .http)

inductive Heard (r : Response) (chunks : List BodyChunk) : String → Prop
  | octets : opening bodyLimit (unpacked r.headers.unpackers chunks) = .ok bs →
      Heard r chunks (utf8Replacing bs)
  | broken : Breaks r chunks f → Heard r chunks ""

theorem heard_or_startles (r : Response) (chunks : List BodyChunk) :
    (∃ text, Heard r chunks text) ∨ ∃ f, Startles r chunks f := by
  cases ho : opening bodyLimit (unpacked r.headers.unpackers chunks) with
  | ok bs => exact .inl ⟨_, .octets ho⟩
  | error f =>
    by_cases hf : IsNetwork f ∨ f.family = .http
    · exact .inl ⟨_, .broken ⟨ho, hf⟩⟩
    · exact .inr ⟨f, ho, hf⟩

theorem readOctets_of_chunks (hbody : r.body = .ofChunks wire r.headers chunks) :
    (r.body.readOctets bodyLimit).1 = opening bodyLimit (unpacked r.headers.unpackers chunks) := by
  rw [hbody]
  exact readOctets_eq_opening bodyLimit_pos (unfinished_ofChunks ..)

theorem bodyText_of_heard {text : String} (hbody : r.body = .ofChunks wire r.headers chunks)
    (h : Heard r chunks text) : (bodyText r).1 = .ok text := by
  have hread := readOctets_of_chunks hbody
  rw [bodyText]
  generalize r.body.readOctets bodyLimit = answer at hread ⊢
  obtain ⟨octets, b⟩ := answer
  cases h with
  | octets ho =>
    obtain rfl : octets = .ok _ := hread.trans ho
    rfl
  | broken h =>
    obtain rfl : octets = .error _ := hread.trans h.1
    obtain (hf | hf) | hf := h.2 <;> simp only [hf]

theorem bodyText_of_startles {f : Fault} (hbody : r.body = .ofChunks wire r.headers chunks)
    (h : Startles r chunks f) : (bodyText r).1 = .error f := by
  have hread := readOctets_of_chunks hbody
  rw [bodyText]
  generalize r.body.readOctets bodyLimit = answer at hread ⊢
  obtain ⟨octets, b⟩ := answer
  obtain ⟨ho, hf⟩ := h
  obtain rfl : octets = .error f := hread.trans ho
  simp only [IsNetwork, not_or] at hf
  cases hfamily : f.family <;> simp_all

theorem ofResponse_eq (r : Response) : (ofResponse r).1 = (bodyText r).1 >>= ofText r := rfl

section Cut

/-- A response with these octets for a body, which are cut in this way and not said to be compressed. -/
structure Carries (r : Response) (cut : List (List UInt8)) : Prop where
  body : ∃ wire, r.body = .ofChunks wire r.headers (cut.map .octets)
  plain : r.headers.codings = []

theorem Carries.unpacked_eq (h : Carries r cut) :
    unpacked r.headers.unpackers (cut.map .octets) = cut.map .octets := by
  rw [Headers.unpackers_eq_nil h.plain, unpacked_nil]

theorem Carries.ofResponse_eq (h : Carries r cut) :
    (ofResponse r).1 = ofText r (utf8Replacing (cut.flatten.take bodyLimit)) := by
  obtain ⟨wire, hbody⟩ := h.body
  have hopening := opening_map_octets bodyLimit cut
  rw [← h.unpacked_eq] at hopening
  rw [ServerError.ofResponse_eq, bodyText_of_heard hbody (.octets hopening)]
  rfl

theorem Carries.pulled_ofResponse (h : Carries r cut) :
    (ofResponse r).2.body.pulled ≤ cut.length ∧
      ∀ k < (ofResponse r).2.body.pulled, (cut.take k).flatten.length < bodyLimit := by
  obtain ⟨wire, hbody⟩ := h.body
  obtain ⟨n, hn, hpulled, hbound⟩ :=
    pulled_readOctets bodyLimit_pos (unfinished_ofChunks wire r.headers (cut.map .octets))
  rw [← hbody] at hn hpulled hbound
  have hunread : r.body.unread = cut.map .octets := by
    rw [hbody]
    exact h.unpacked_eq
  have hcount : (ofResponse r).2.body.pulled = n := by
    have hzero : r.body.pulled = 0 := by rw [hbody, ofChunks]
    rw [hzero, Nat.zero_add] at hpulled
    rw [← hpulled]
    exact pulled_close _
  rw [hunread] at hn hbound
  rw [hcount]
  refine ⟨by simpa using hn, fun k hk => ?_⟩
  have hfew := hbound k hk
  rwa [← List.map_take, octetCount_map_octets] at hfew

theorem ofResponse_congr (h : Carries r cut) (h' : Carries r' cut') (hstatus : r.status = r'.status)
    (hphrase : r.reasonPhrase = r'.reasonPhrase)
    (hid : r.headers.get? requestIdHeader = r'.headers.get? requestIdHeader)
    (hoctets : cut.flatten.take bodyLimit = cut'.flatten.take bodyLimit) :
    (∀ k < (ofResponse r).2.body.pulled, (cut.take k).flatten.length < bodyLimit) ∧
      (ofResponse r).2.body.pulled ≤ cut.length ∧ (ofResponse r).1 = (ofResponse r').1 := by
  obtain ⟨hpulled, hbound⟩ := h.pulled_ofResponse
  refine ⟨hbound, hpulled, ?_⟩
  have hphrases : statusText r = statusText r' := by rw [statusText, statusText, hphrase, hstatus]
  rw [h.ofResponse_eq, h'.ofResponse_eq, hoctets, ofText, ofText, hid, hstatus, hphrases]

def refusalOf (cut : List (List UInt8)) : Response := ⟨503, [], none, .ofChunks .plain [] (cut.map .octets)⟩

theorem carries_refusalOf (cut : List (List UInt8)) : Carries (refusalOf cut) cut :=
  ⟨⟨.plain, rfl⟩, rfl⟩

theorem ofResponse_congr_straddling :
    (ofResponse (refusalOf [List.replicate bodyLimit 0x61])).1 =
      (ofResponse (refusalOf [List.replicate (bodyLimit - 1) 0x61, [0x61, 0x62], [0x63]])).1 := by
  have hoctets : [List.replicate bodyLimit (0x61 : UInt8)].flatten.take bodyLimit =
      [List.replicate (bodyLimit - 1) (0x61 : UInt8), [0x61, 0x62], [0x63]].flatten.take bodyLimit := by
    have hlimit := bodyLimit_pos
    -- the octets are not to be written out
    generalize bodyLimit = n at hlimit ⊢
    obtain ⟨n, rfl⟩ : ∃ m, n = m + 1 := ⟨n - 1, by omega⟩
    simp [List.take_append, List.replicate_succ']
  have hsame (cut cut' : List (List UInt8))
      (h : cut.flatten.take bodyLimit = cut'.flatten.take bodyLimit) :=
    (ofResponse_congr (carries_refusalOf cut) (carries_refusalOf cut') rfl rfl rfl h).2.2
  exact hsame _ _ hoctets

end Cut

def Spells (d : Members) (name : String) (s : AnyText) : Prop :=
  ∃ v, d.get? (.plain name) = some v ∧ v ≠ .null ∧ v.display.strip = s ∧ s ≠ ""

theorem optionalText_eq_some_iff {d : Members} {name : String} {s : AnyText} :
    optionalText (d.get? (.plain name)) = some s ↔ Spells d name s := by
  rw [Spells]
  cases d.get? (.plain name) with
  | none => simp [optionalText]
  | some v =>
    have htext (hv : v ≠ .null) : optionalText (some v) =
        if v.display.strip = "" then none else some v.display.strip := by
      cases v <;> first | exact absurd rfl hv | rfl
    by_cases hv : v = .null
    · simp [hv, optionalText]
    · simp only [htext hv, Option.some.injEq]
      split <;> grind

inductive Falls (d : Members) (name : String) (fallback : Option AnyText) : Option AnyText → Prop
  | spelt : Spells d name s → Falls d name fallback (some s)
  | silent : (∀ s, ¬ Spells d name s) → Falls d name fallback fallback

theorem falls_optionalText (d : Members) (name : String) (fallback : Option AnyText) :
    Falls d name fallback ((optionalText (d.get? (.plain name))).orElse fun _ => fallback) := by
  cases h : optionalText (d.get? (.plain name)) with
  | none =>
    refine .silent fun s hs => ?_
    rw [← optionalText_eq_some_iff, h] at hs
    cases hs
  | some s => exact .spelt (optionalText_eq_some_iff.1 h)

/-- The error that a response with a text means. A document speaks for each field on its own; any other
text is the message. -/
inductive Explained (r : Response) (text : String) : ServerError → Prop
  | document {d : Members} {code id : Option AnyText} {message : AnyText} :
      Json.decode text = .ok (.obj d) → Falls d "Code" none code →
      Falls d "RequestId" ((r.headers.get? requestIdHeader).map .plain) id →
      Falls d "Message" (some (.plain (statusText r))) (some message) →
      Explained r text ⟨message, r.status, code, id⟩
  | plain : (∀ d, Json.decode text ≠ .ok (.obj d)) → strip text ≠ "" →
      Explained r text ⟨strip text, r.status, none, (r.headers.get? requestIdHeader).map .plain⟩
  | blank : (∀ d, Json.decode text ≠ .ok (.obj d)) → strip text = "" →
      Explained r text ⟨statusText r, r.status, none, (r.headers.get? requestIdHeader).map .plain⟩

theorem statusText_ne_empty (r : Response) : statusText r ≠ "" := by
  rw [statusText]
  split
  · intro hempty
    have hchars := congrArg String.toList hempty
    rw [show s!"HTTP {r.status}" = "HTTP " ++ toString r.status from rfl, String.toList_append] at hchars
    simp at hchars
  · assumption

theorem Explained.message_ne_empty {text : String} {e : ServerError} (h : Explained r text e) :
    e.message ≠ "" := by
  cases h with
  | document _ _ _ hmessage =>
    cases hmessage with
    | spelt h =>
      obtain ⟨v, -, -, -, hne⟩ := h
      exact hne
    | silent => exact mt AnyText.plain.inj (statusText_ne_empty r)
  | plain _ hne => exact mt AnyText.plain.inj hne
  | blank => exact mt AnyText.plain.inj (statusText_ne_empty r)

theorem Explained.status_eq {text : String} {e : ServerError} (h : Explained r text e) :
    e.status = r.status := by
  cases h <;> rfl

theorem document_eq_some_iff {text : String} {d : Members} :
    document text = .ok (some d) ↔ Json.decode text = .ok (.obj d) := by
  have hempty : Json.decode "" = .error (.malformed .value (.after [])) := rfl
  fun_cases document text <;> simp_all

theorem explained_of_ofText {text : String} {e : ServerError} (h : ofText r text = .ok e) :
    Explained r text e := by
  rw [ofText] at h
  rcases hd : document text with f | _ | d
  all_goals
    rw [hd] at h
    cases h
  · have hno (d : Members) : Json.decode text ≠ .ok (.obj d) := fun h => by
      rw [document_eq_some_iff.2 h] at hd
      cases hd
    by_cases hblank : strip text = ""
    · simpa only [hblank, if_true] using Explained.blank hno hblank
    · have htext : AnyText.plain (strip text) ≠ "" := mt AnyText.plain.inj hblank
      simpa only [htext, if_false] using Explained.plain hno hblank
  · refine .document (document_eq_some_iff.1 hd) ?_ (falls_optionalText ..) ?_
    · have hcode := falls_optionalText d "Code" none
      simpa using hcode
    · have hmessage := falls_optionalText d "Message" (some (.plain (statusText r)))
      cases hm : optionalText (d.get? "Message") with
      | none => simpa [hm] using hmessage
      | some s =>
        obtain ⟨v, -, -, -, hne⟩ := optionalText_eq_some_iff.1 hm
        simpa [hm, hne] using hmessage

/-- What comes of a response that refuses: the error that its text means, unless the text is too much
for the decoder or could not be read. -/
inductive Refuses (r : Response) (chunks : List BodyChunk) : Except Fault ServerError → Prop
  | explained {text : String} : Heard r chunks text → Explained r text e → Refuses r chunks (.ok e)
  | beyond {text : String} : Heard r chunks text → text ≠ "" → Overtaxes text →
      Refuses r chunks (.error f)
  | startled : Startles r chunks f → Refuses r chunks (.error f)

theorem refuses_ofResponse (hbody : r.body = .ofChunks wire r.headers chunks) :
    Refuses r chunks (ofResponse r).1 := by
  obtain ⟨text, hheard⟩ | ⟨f, hf⟩ := heard_or_startles r chunks
  · have hmade : (ofResponse r).1 = ofText r text := by
      rw [ofResponse_eq, bodyText_of_heard hbody hheard]
      rfl
    obtain ⟨⟨hne, hover⟩, f, hf⟩ | ⟨-, e, he, -⟩ := ofText_cases r text
    · rw [hmade, hf]
      exact .beyond hheard hne hover
    · rw [hmade, he]
      exact .explained hheard (explained_of_ofText he)
  · rw [ofResponse_eq, bodyText_of_startles hbody hf]
    exact .startled hf

theorem ofResponse_of_breaks {f : Fault} (hbody : r.body = .ofChunks wire r.headers chunks)
    (h : Breaks r chunks f) :
    (ofResponse r).1 = (ofResponse { r with body := .ofChunks wire r.headers [] }).1 := by
  have hempty : Heard { r with body := .ofChunks wire r.headers [] } [] (utf8Replacing []) := .octets rfl
  rw [ofResponse_eq, ofResponse_eq, bodyText_of_heard hbody (.broken h), bodyText_of_heard rfl hempty]
  rfl

theorem ofResponse_explained (hbody : r.body = .ofChunks wire r.headers chunks) :
    Refuses r chunks (ofResponse r).1 ∧
      (∀ e, (ofResponse r).1 = .ok e → e.message ≠ "" ∧ e.status = r.status) ∧
      ∀ f, Breaks r chunks f →
        (ofResponse r).1 = (ofResponse { r with body := .ofChunks wire r.headers [] }).1 := by
  have hrefuses := refuses_ofResponse hbody
  refine ⟨hrefuses, fun e he => ?_, fun f => ofResponse_of_breaks hbody⟩
  rw [he] at hrefuses
  cases hrefuses with
  | explained _ h => exact ⟨h.message_ne_empty, h.status_eq⟩

theorem ofResponse_explained_broken :
    (ofResponse ⟨599, [], none, .ofChunks .plain [] [.octets [0x7b, 0x22], .fault (.raised .read [])]⟩).1 =
      .ok ⟨"HTTP 599", 599, none, none⟩ := by
  have hempty := (ofResponse_explained (r := ⟨599, [], none, .ofChunks .plain [] [.octets [0x7b, 0x22],
    .fault (.raised .read [])]⟩) rfl).2.2 (.raised .read []) ⟨rfl, .inl (.inl rfl)⟩
  rw [hempty]
  rfl

end ServerError

end ClusterHealth.Admin

import ClusterHealth.Proofs.Stream.ReaderLaws
import ClusterHealth.Proofs.Text.DecodingLaws
import ClusterHealth.Web.Response

/-!
A body as a source of text. However it is read, it is closed once at most, and what it will answer is
laid down by what is left of it: the text of its chunks, unpacked one by one and then decoded. Closing it
early takes away the end of that text, if it takes anything, and leaves a fault there.
-/

namespace ClusterHealth.Web

open ClusterHealth.Stream ClusterHealth.Text

namespace TextDecoder

def isBuiltIn : TextDecoder → Bool
  | .builtIn .. => true
  | _ => false

theorem fault?_of_isBuiltIn {d : TextDecoder} (h : d.isBuiltIn = true) : d.fault? = none := by
  cases d <;> first | rfl | cases h

theorem isBuiltIn_decode {d d' : TextDecoder} {bs : List UInt8} {cs : List Char}
    (h : d.isBuiltIn = true) (hd : d.decode bs = .ok (cs, d')) : d'.isBuiltIn = true := by
  cases d with
  | builtIn =>
    obtain ⟨-, rfl⟩ := Prod.mk.inj (Except.ok.inj hd)
    rfl
  | _ => cases h

theorem fault?_of_decode {d d' : TextDecoder} {bs : List UInt8} {cs : List Char}
    (hd : d.decode bs = .ok (cs, d')) : d'.fault? = none := by
  revert hd
  fun_cases decode d bs with
  | case4 => nofun
  | case3 codec seen =>
    cases codec.decode seen bs with
    | error f => nofun
    | ok out =>
      rintro ⟨⟩
      rfl
  | _ =>
    rintro ⟨⟩
    rfl

theorem isClosing_finish {d : TextDecoder} {cs : List Char} (h : d.isBuiltIn = true)
    (hd : d.finish = .ok cs) : ∀ c ∈ cs, Scan.isClosing c = false := by
  cases d with
  | builtIn charset s =>
    cases hd
    cases s with
    | none => simp [decodeEnd]
    | some p =>
      have hmark : Scan.isClosing (Char.ofNat 0xFFFD) = false := by decide
      simpa [decodeEnd, Decoded.replaced] using hmark
  | _ => cases h

end TextDecoder

namespace Body

variable {b b' : Body}

theorem closes_eq_zero (h : b.isClosed = false) : b.closes = 0 := by
  simpa [isClosed] using h

section Cut

theorem cut_cases (b : Body) :
    b.cut = b ∨ ∃ waiting f, waiting < b.left.length ∧
      b.cut = { b with left := b.left.take waiting, ending := some f } := by
  unfold cut
  split
  · exact .inl rfl
  · next waiting f _ =>
    split
    · exact .inl rfl
    · next h => exact .inr ⟨waiting, f, Nat.lt_of_not_le h, rfl⟩

@[simp] theorem pulled_cut (b : Body) : b.cut.pulled = b.pulled := by
  obtain h | ⟨_, _, -, h⟩ := b.cut_cases <;> rw [h]

@[simp] theorem finished_cut (b : Body) : b.cut.finished = b.finished := by
  obtain h | ⟨_, _, -, h⟩ := b.cut_cases <;> rw [h]

@[simp] theorem decoder_cut (b : Body) : b.cut.decoder = b.decoder := by
  obtain h | ⟨_, _, -, h⟩ := b.cut_cases <;> rw [h]

theorem cut_of_left_eq_nil (h : b.left = []) : b.cut = b := by
  obtain hcut | ⟨_, _, hlt, -⟩ := b.cut_cases
  · exact hcut
  · simp [h] at hlt

@[simp] theorem pulled_close (b : Body) : b.close.pulled = b.pulled := by
  unfold close
  split <;> simp

@[simp] theorem finished_close (b : Body) : b.close.finished = b.finished := by
  unfold close
  split <;> simp

@[simp] theorem decoder_close (b : Body) : b.close.decoder = b.decoder := by
  unfold close
  split <;> simp

end Cut

section Closing

theorem closes_close (h : b.closes ≤ 1) : b.close.closes = 1 := by
  cases hc : b.isClosed with
  | true =>
    have : 0 < b.closes := by simpa [isClosed] using hc
    simp only [close, hc, if_true]
    exact Nat.le_antisymm h this
  | false => simp [close, hc, closes_eq_zero hc]

theorem isClosed_close (b : Body) : b.close.isClosed = true := by
  unfold close
  split
  · assumption
  · simp [isClosed]

theorem closes_le_close (b : Body) : b.closes ≤ b.close.closes := by
  unfold close
  split <;> simp

theorem closes_pullOctets (b : Body) :
    b.pullOctets.2.closes = b.closes ∨ b.pullOctets.2.closes = b.close.closes := by
  fun_cases pullOctets b with
  | case2 => exact .inr rfl
  | _ => exact .inl rfl

theorem closes_pull (b : Body) : b.pull.2.closes = b.closes ∨ b.pull.2.closes = b.close.closes := by
  have ho := b.closes_pullOctets
  fun_cases pull b <;> first | exact .inl rfl | simpa [*] using ho

theorem closes_pullOctets_le (h : b.closes ≤ 1) : b.pullOctets.2.closes ≤ 1 := by
  obtain ho | ho := b.closes_pullOctets
  · exact ho ▸ h
  · exact Nat.le_of_eq (ho.trans (closes_close h))

theorem closes_pull_le (h : b.closes ≤ 1) : b.pull.2.closes ≤ 1 := by
  obtain hp | hp := b.closes_pull
  · exact hp ▸ h
  · exact Nat.le_of_eq (hp.trans (closes_close h))

theorem le_closes_pull (b : Body) : b.closes ≤ b.pull.2.closes := by
  obtain hp | hp := b.closes_pull
  · exact Nat.le_of_eq hp.symm
  · exact hp ▸ b.closes_le_close

theorem closes_readChunks_le (h : b.closes ≤ 1) (limit steps size : Nat) (out : List (List UInt8)) :
    (readChunks limit steps size out b).2.closes ≤ 1 := by
  induction steps generalizing b size out with
  | zero => exact h
  | succ steps ih =>
    have ho := closes_pullOctets_le h
    rw [readChunks]
    split
    · next hb => rw [hb] at ho; exact ho
    · next hb => rw [hb] at ho; exact ho
    · next hb =>
      rw [hb] at ho
      dsimp only
      split
      · exact ho
      · exact ih ho ..

theorem closes_readOctets_le (h : b.closes ≤ 1) (limit : Nat) :
    (b.readOctets limit).2.closes ≤ 1 := by
  rw [readOctets]
  exact closes_readChunks_le h ..

theorem closes_of_octets {bs : List UInt8} (h : b.pullOctets = (.ok (some bs), b')) :
    b'.closes = b.closes ∧ b.finished = false := by
  revert h
  fun_cases pullOctets b with
  | case5 hf =>
    intro h
    obtain rfl := (Prod.mk.inj h).2
    exact ⟨rfl, by simpa using hf⟩
  | _ => intro h; cases h

theorem finished_of_end (h : b.pullOctets = (.ok none, b')) : b'.finished = true := by
  revert h
  fun_cases pullOctets b with
  | case1 hf =>
    rintro ⟨⟩
    exact hf
  | case2 =>
    rintro ⟨⟩
    rfl
  | _ => intro h; cases h

theorem isBuiltIn_pullOctets (h : b.decoder.isBuiltIn = true) :
    b.pullOctets.2.decoder.isBuiltIn = true := by
  fun_cases pullOctets b with
  | case2 => simpa using h
  | _ => exact h

theorem isBuiltIn_pull (h : b.decoder.isBuiltIn = true) : b.pull.2.decoder.isBuiltIn = true := by
  have ho := isBuiltIn_pullOctets h
  fun_cases pull b with
  | case3 _ _ _ hp _ _ hd =>
    rw [hp] at ho
    exact TextDecoder.isBuiltIn_decode ho hd
  | case5 _ _ hp =>
    rw [hp] at ho
    exact ho
  | _ => rfl

/-- Text of an open body leaves it open, unless it is the rest of a character at the end. -/
theorem closes_of_pull {cs : List Char} (hd : b.decoder.isBuiltIn = true)
    (hb : b.closes = 0 ∨ b.finished = true) (h : b.pull = (.text cs, b')) :
    b'.closes = 0 ∨ b'.finished = true ∧ ∀ c ∈ cs, Scan.isClosing c = false := by
  have ho := isBuiltIn_pullOctets hd
  revert h
  fun_cases pull b with
  | case3 _ _ _ hp =>
    rintro ⟨⟩
    obtain ⟨hcloses, hf⟩ := closes_of_octets hp
    exact .inl (hcloses.trans (hb.resolve_right (by simp [hf])))
  | case6 _ _ hp _ _ hfinish =>
    rintro ⟨⟩
    rw [hp] at ho
    have hf := finished_of_end hp
    exact .inr ⟨hf, TextDecoder.isClosing_finish ho hfinish⟩
  | _ => intro h; cases h

theorem finished_of_ended (h : b.pull = (.ended, b')) : b'.finished = true := by
  revert h
  fun_cases pull b with
  | case5 _ _ hp =>
    rintro ⟨⟩
    exact finished_of_end hp
  | _ => intro h; cases h

end Closing

section Script

theorem length_flushed_le (decoder : TextDecoder) : (flushed decoder).length ≤ 1 := by
  unfold flushed
  split <;> simp

theorem length_scriptOf_le (ending : Option Fault) (unpackers : List Unpacker) (decoder : TextDecoder)
    (chunks : List BodyChunk) :
    (scriptOf ending unpackers decoder chunks).length ≤ chunks.length + 1 := by
  fun_induction scriptOf ending unpackers decoder chunks with
  | case1 => exact length_flushed_le _
  | case6 _ _ _ _ _ _ _ _ _ _ ih => simpa using ih
  | _ => simp

theorem length_script_le (b : Body) : b.script.length ≤ b.left.length + 1 := by
  unfold script
  split
  · simp
  · split
    · exact (length_flushed_le _).trans (Nat.le_add_left ..)
    · exact length_scriptOf_le ..

@[simp] theorem flushed_spent : flushed .spent = [] := rfl

theorem script_of_spent (hd : b.decoder = .spent) (hf : b.finished = true) : b.script = [] := by
  simp [script, hd, hf, TextDecoder.fault?, TextDecoder.spent, flushed, TextDecoder.finish, decodeEnd]

theorem script_of_finished (h : b.decoder.fault? = none) (hf : b.finished = true) :
    b.script = flushed b.decoder := by
  simp [script, h, hf]

theorem pull_script_of_ended (hd : b.decoder.fault? = none) (h : b.pullOctets = (.ok none, b'))
    (hd' : b'.decoder = b.decoder) (hb : b.script = flushed b.decoder) :
    b.pull.map id script = (Chunks.ofList b.script).pull.map id Chunks.left := by
  have hf := finished_of_end h
  rw [pull, hd, hb]
  simp only [h, hd']
  have hscript := script_of_finished (hd'.symm ▸ hd) hf
  rw [hd'] at hscript
  rcases hfinish : b.decoder.finish with f | _ | ⟨c, cs⟩
  · have hs : { b' with decoder := .spent }.script = [] := script_of_spent rfl hf
    simp [flushed, hfinish, hs, Chunks.pull, Chunks.ofList]
  · simp [hscript, flushed, hfinish, Chunks.pull, Chunks.ofList]
  · have hs : { b' with decoder := .spent }.script = [] := script_of_spent rfl hf
    simp [flushed, hfinish, hs, Chunks.pull, Chunks.ofList]

theorem pull_script_of_fault {f : Fault} (h : b.pull = (.failed f, b')) (hs : b'.script = [])
    (hb : b.script = [.fault f]) :
    b.pull.map id script = (Chunks.ofList b.script).pull.map id Chunks.left := by
  rw [h, hb]
  simp [hs, Chunks.pull, Chunks.ofList]

theorem pull_script_of_chunk {chunk : BodyChunk} {rest : List BodyChunk}
    (hd : b.decoder.fault? = none) (hf : b.finished = false) (hl : b.left = chunk :: rest) :
    b.pull.map id script = (Chunks.ofList b.script).pull.map id Chunks.left := by
  have hs : b.script = scriptOf b.ending b.unpackers b.decoder (chunk :: rest) := by
    simp [script, hd, hf, hl]
  cases chunk with
  | fault f =>
    have hp : b.pull = (.failed f,
        { b with left := rest, pulled := b.pulled + 1, finished := true, decoder := .spent }) := by
      simp [pull, hd, pullOctets, hf, hl]
    exact pull_script_of_fault hp (script_of_spent rfl rfl) (by simp [hs, scriptOf])
  | octets bs =>
    cases hu : Unpacker.unpackChunk b.unpackers bs with
    | error f =>
      have hp : b.pull = (.failed f,
          { b with left := rest, pulled := b.pulled + 1, finished := true, decoder := .spent }) := by
        simp [pull, hd, pullOctets, hf, hl, hu]
      exact pull_script_of_fault hp (script_of_spent rfl rfl) (by simp [hs, scriptOf, hu])
    | ok unpacked =>
      obtain ⟨out, unpackers⟩ := unpacked
      cases hdecode : b.decoder.decode out with
      | error f =>
        have hp : b.pull = (.failed f, { b with
            left := rest
            pulled := b.pulled + 1
            unpackers := unpackers
            finished := true
            decoder := .spent }) := by
          simp [pull, hd, pullOctets, hf, hl, hu, hdecode]
        exact pull_script_of_fault hp (script_of_spent rfl rfl) (by simp [hs, scriptOf, hu, hdecode])
      | ok decoded =>
        obtain ⟨cs, decoder⟩ := decoded
        have hnext := TextDecoder.fault?_of_decode hdecode
        simp [pull, hd, pullOctets, hf, hl, hu, hdecode, scriptOf, Chunks.pull, Chunks.ofList, script, hnext]

theorem pull_script (b : Body) :
    b.pull.map id script = (Chunks.ofList b.script).pull.map id Chunks.left := by
  cases hd : b.decoder.fault? with
  | some f =>
    have hp : b.pull = (.failed f, { b with finished := true, decoder := .spent }) := by
      simp only [pull, hd]
    exact pull_script_of_fault hp (script_of_spent rfl rfl) (by simp only [script, hd])
  | none =>
    cases hf : b.finished with
    | true =>
      have hp : b.pullOctets = (.ok none, b) := by simp [pullOctets, hf]
      exact pull_script_of_ended hd hp rfl (script_of_finished hd hf)
    | false =>
      cases hl : b.left with
      | cons chunk rest => exact pull_script_of_chunk hd hf hl
      | nil =>
        cases he : b.ending with
        | none =>
          have hp : b.pullOctets = (.ok none, { b.close with finished := true }) := by
            simp [pullOctets, hf, hl, he]
          exact pull_script_of_ended hd hp (by simp) (by simp [script, hd, hf, hl, he, scriptOf])
        | some f =>
          have hp : b.pull = (.failed f, { b with finished := true, decoder := .spent }) := by
            simp [pull, hd, pullOctets, hf, hl, he]
          exact pull_script_of_fault hp (script_of_spent rfl rfl)
            (by simp [script, hd, hf, hl, he, scriptOf])

instance : Scripted Body := ⟨script, pull_script, length_script_le⟩

end Script

section Text

def intact : List BodyChunk → List UInt8 × Bool
  | [] => ([], true)
  | .fault _ :: _ => ([], false)
  | .octets bs :: rest => (bs ++ (intact rest).1, (intact rest).2)

def unpacked : List Unpacker → List BodyChunk → List BodyChunk
  | _, [] => []
  | _, .fault f :: _ => [.fault f]
  | unpackers, .octets bs :: rest =>
    match Unpacker.unpackChunk unpackers bs with
    | .error f => [.fault f]
    | .ok (out, unpackers) => .octets out :: unpacked unpackers rest

def decoded : TextDecoder → List BodyChunk → List Char
  | decoder, [] => decoder.finish.toOption.getD []
  | _, .fault _ :: _ => []
  | decoder, .octets bs :: rest =>
    match decoder.decode bs with
    | .error _ => []
    | .ok (cs, decoder) => cs ++ decoded decoder rest

def text (wire : Wire) (hs : Headers) (chunks : List BodyChunk) : List Char :=
  decoded (wire.decoder hs) (unpacked hs.unpackers chunks)

@[simp] theorem unpackChunk_nil (bs : List UInt8) : Unpacker.unpackChunk [] bs = .ok (bs, []) := by
  unfold Unpacker.unpackChunk
  split
  · next h => rw [h]
  · rfl

theorem unpacked_nil (chunks : List (List UInt8)) :
    unpacked [] (chunks.map .octets) = chunks.map .octets := by
  induction chunks with
  | nil => rfl
  | cons bs chunks ih => simp [unpacked, ih]

def flush (s : DecoderState) : List Char := (decodeEnd s).map Decoded.replaced

theorem decoded_builtIn (charset : Charset) (s : DecoderState) (chunks : List BodyChunk) :
    decoded (.builtIn charset s) chunks = (charset.decode s (intact chunks).1).1 ++
      if (intact chunks).2 then flush (charset.decode s (intact chunks).1).2 else [] := by
  induction chunks generalizing s with
  | nil => simp [decoded, intact, flush, TextDecoder.finish, Except.toOption]
  | cons c chunks ih =>
    cases c with
    | fault f => simp [decoded, intact]
    | octets bs => simp [decoded, intact, TextDecoder.decode, ih, Charset.decode_append]

theorem text_flushed (decoder : TextDecoder) :
    (Ahead.ofChunks (flushed decoder)).text = decoder.finish.toOption.getD [] := by
  unfold flushed
  split <;> simp [*, Ahead.ofChunks, Except.toOption]

theorem text_scriptOf (unpackers : List Unpacker) (decoder : TextDecoder) (chunks : List BodyChunk) :
    (Ahead.ofChunks (scriptOf none unpackers decoder chunks)).text =
      decoded decoder (unpacked unpackers chunks) := by
  induction chunks generalizing unpackers decoder with
  | nil => exact text_flushed decoder
  | cons c chunks ih =>
    cases c with
    | fault f => rfl
    | octets bs =>
      simp only [scriptOf, unpacked]
      cases Unpacker.unpackChunk unpackers bs with
      | error f => rfl
      | ok out =>
        simp only [decoded]
        cases decoder.decode out.1 with
        | error f => rfl
        | ok cs => simp [Ahead.ofChunks, ih]

theorem decoded_of_fault {decoder : TextDecoder} {f : Fault} (h : decoder.fault? = some f)
    (chunks : List BodyChunk) : decoded decoder chunks = [] := by
  cases decoder with
  | unusable g => rcases chunks with _ | ⟨_ | _, _⟩ <;> rfl
  | _ => cases h

theorem text_script_ofChunks (wire : Wire) (hs : Headers) (chunks : List BodyChunk) :
    (Ahead.ofChunks (script (ofChunks wire hs chunks))).text = text wire hs chunks := by
  rw [text]
  cases hd : (wire.decoder hs).fault? with
  | some f => simp [script, ofChunks, hd, Ahead.ofChunks, decoded_of_fault hd]
  | none => simp [script, ofChunks, hd, text_scriptOf]

end Text

section Cutting

/-- Chunks that are cut off take an end of the text with them, and leave a fault. -/
theorem exists_ahead_scriptOf_take (f : Fault) (ending : Option Fault) (n : Nat)
    (unpackers : List Unpacker) (decoder : TextDecoder) (chunks : List BodyChunk) :
    ∃ t g, t <+: (Ahead.ofChunks (scriptOf ending unpackers decoder chunks)).text ∧
      Ahead.ofChunks (scriptOf (some f) unpackers decoder (chunks.take n)) = ⟨t, some g⟩ := by
  induction n generalizing unpackers decoder chunks with
  | zero => exact ⟨[], f, List.nil_prefix, rfl⟩
  | succ n ih =>
    cases chunks with
    | nil => exact ⟨[], f, List.nil_prefix, rfl⟩
    | cons c chunks =>
      cases c with
      | fault g => exact ⟨[], g, List.nil_prefix, rfl⟩
      | octets bs =>
        simp only [List.take_succ_cons, scriptOf]
        cases Unpacker.unpackChunk unpackers bs with
        | error g => exact ⟨[], g, List.nil_prefix, rfl⟩
        | ok out =>
          cases hd : decoder.decode out.1 with
          | error g => exact ⟨[], g, List.nil_prefix, by simp [hd, Ahead.ofChunks]⟩
          | ok cs =>
            obtain ⟨t, g, ht, hahead⟩ := ih out.2 cs.2 chunks
            refine ⟨cs.1 ++ t, g, ?_, ?_⟩
            · simpa [hd, Ahead.ofChunks, List.prefix_append_right_inj] using ht
            · simp [hd, Ahead.ofChunks, hahead]

theorem scriptOf_ne_nil {ending : Option Fault} {unpackers : List Unpacker} {decoder : TextDecoder}
    {chunks : List BodyChunk} (h : chunks ≠ []) : scriptOf ending unpackers decoder chunks ≠ [] := by
  fun_cases scriptOf ending unpackers decoder chunks <;> simp_all

theorem script_close (b : Body) :
    b.close.script = b.script ∨ b.script ≠ [] ∧ ∃ t f,
      t <+: (Ahead.ofChunks b.script).text ∧ Ahead.ofChunks b.close.script = ⟨t, some f⟩ := by
  -- what is cut off shows only in a body whose decoder works and whose end has not come
  have hunseen {c : Body} (hd : c.decoder = b.decoder) (hf : c.finished = b.finished)
      (hs : b.decoder.fault? ≠ none ∨ b.finished = true) : c.script = b.script := by
    simp only [script, hd, hf]
    obtain hs | hs := hs
    · obtain ⟨f, hs⟩ := Option.ne_none_iff_exists'.1 hs
      simp [hs]
    · simp [hs]
  by_cases hs : b.decoder.fault? ≠ none ∨ b.finished = true
  · exact .inl (hunseen b.decoder_close b.finished_close hs)
  · obtain ⟨hd, hf⟩ : b.decoder.fault? = none ∧ b.finished = false := by simpa using hs
    have hscript : b.script = scriptOf b.ending b.unpackers b.decoder b.left := by
      simp [script, hd, hf]
    unfold close
    split
    · exact .inl rfl
    · obtain hcut | ⟨n, f, hlt, hcut⟩ := b.cut_cases
      · rw [hcut]
        exact .inl rfl
      · rw [hcut, hscript]
        have hne : b.left ≠ [] := by
          rintro hnil
          simp [hnil] at hlt
        obtain ⟨t, g, ht, hahead⟩ :=
          exists_ahead_scriptOf_take f b.ending n b.unpackers b.decoder b.left
        exact .inr ⟨scriptOf_ne_nil hne, t, g, ht, by simpa [script, hd, hf] using hahead⟩

/-- What a reader holds stays when the body is closed, and so does the beginning of what it will get. -/
theorem fits_close {r : Reader} (h : r.Fits b) :
    r.Fits b.close ∧
      (r.ahead b.close = r.ahead b ∨
        ∃ t f, t <+: (r.ahead b).text ∧ r.ahead b.close = ⟨t, some f⟩) := by
  obtain hs | ⟨hne, t, f, ht, hs⟩ := b.script_close
  · refine ⟨⟨h.wf, fun hx => hs.trans (h.exhausted hx)⟩, .inl ?_⟩
    simp only [Reader.ahead, Scripted.script, hs]
  -- a reader that is exhausted had pulled all
  · refine ⟨⟨h.wf, fun hx => absurd (h.exhausted hx) hne⟩, .inr ⟨r.held ++ t, f, ?_, ?_⟩⟩
    · exact (List.prefix_append_right_inj _).2 ht
    · simp only [Reader.ahead, Scripted.script, hs]

end Cutting

end Body

end ClusterHealth.Web

import ClusterHealth.Proofs.Web.Cutting

namespace ClusterHealth.Web.Body

variable {limit : Nat} {b : Body}

def octetCount : List BodyChunk → Nat
  | [] => 0
  | .octets bs :: rest => bs.length + octetCount rest
  | .fault _ :: rest => octetCount rest

def firstFault? : List BodyChunk → Option Fault
  | [] => none
  | .fault f :: _ => some f
  | .octets _ :: rest => firstFault? rest

def opening (limit : Nat) (chunks : List BodyChunk) : Except Fault (List UInt8) :=
  if limit ≤ (intact chunks).1.length then .ok ((intact chunks).1.take limit)
  else
    match firstFault? chunks with
    | some f => .error f
    | none => .ok (intact chunks).1

theorem opening_append (limit : Nat) (as bs : List UInt8) (chunks : List BodyChunk) :
    opening limit (.octets as :: .octets bs :: chunks) = opening limit (.octets (as ++ bs) :: chunks) := by
  simp [opening, intact, firstFault?]

theorem opening_of_le {bs : List UInt8} (h : limit ≤ bs.length) (chunks : List BodyChunk) :
    opening limit (.octets bs :: chunks) = .ok (bs.take limit) := by
  rw [opening, intact, if_pos (by simp; omega), List.take_append_of_le_length h]

theorem opening_of_lt {bs : List UInt8} (h : bs.length < limit) : opening limit [.octets bs] = .ok bs := by
  simp [opening, intact, firstFault?, Nat.not_le.2 h]

theorem opening_fault {bs : List UInt8} (h : bs.length < limit) (f : Fault) (chunks : List BodyChunk) :
    opening limit (.octets bs :: .fault f :: chunks) = .error f := by
  simp [opening, intact, firstFault?, Nat.not_le.2 h]

theorem firstFault?_map_octets (cut : List (List UInt8)) : firstFault? (cut.map .octets) = none := by
  induction cut with
  | nil => rfl
  | cons bs cut ih => rw [List.map_cons, firstFault?, ih]

theorem opening_map_octets (limit : Nat) (cut : List (List UInt8)) :
    opening limit (cut.map .octets) = .ok (cut.flatten.take limit) := by
  rw [opening, firstFault?_map_octets, intact_map_octets]
  split
  · rfl
  · next h => rw [List.take_of_length_le (Nat.le_of_not_le h)]

structure Unfinished (b : Body) : Prop where
  ending : b.ending = none
  finished : b.finished = false

theorem unfinished_ofChunks (wire : Wire) (headers : Headers) (chunks : List BodyChunk) :
    (ofChunks wire headers chunks).Unfinished :=
  ⟨rfl, rfl⟩

/-- What an unfinished body will answer before its end. -/
def unread (b : Body) : List BodyChunk := unpacked b.unpackers b.left

inductive Gives (b : Body) : Except Fault (Option (List UInt8)) × Body → Prop
  | ended : b.unread = [] → b'.pulled = b.pulled → Gives b (.ok none, b')
  | fault : b.unread = .fault f :: rest → b'.pulled = b.pulled + 1 → Gives b (.error f, b')
  | octets : b.unread = .octets bs :: b'.unread → b.left.length = b'.left.length + 1 →
      b'.Unfinished → b'.pulled = b.pulled + 1 → Gives b (.ok (some bs), b')

theorem gives_pullOctets (h : b.Unfinished) : b.Gives b.pullOctets := by
  fun_cases pullOctets b with
  | case1 hfinished => simp [h.finished] at hfinished
  | case2 _ hl => exact .ended (by rw [unread, hl, unpacked]) b.pulled_close
  | case3 _ _ _ hending => simp [h.ending] at hending
  | case4 _ rest _ f hl => exact .fault (by rw [unread, hl, unpacked]) rfl
  | case5 _ rest _ bs out unpackers hu hl =>
    have hunpack : Unpacker.unpackChunk b.unpackers bs = .ok (out, unpackers) := hu
    exact .octets (by rw [unread, hl, unpacked, hunpack]; rfl) (by rw [hl]; rfl) ⟨h.ending, h.finished⟩ rfl
  | case6 _ rest _ bs f hu hl =>
    have hunpack : Unpacker.unpackChunk b.unpackers bs = .error f := hu
    have hunread : b.unread = [.fault f] := by rw [unread, hl, unpacked, hunpack]
    exact .fault hunread rfl

section Loop

variable {steps size : Nat}

/-- With the octets that were read before as one more chunk, what is read is what a text opens with. -/
theorem readChunks_eq_opening {out : List (List UInt8)} (h : b.Unfinished)
    (hsteps : b.left.length < steps) (hsize : out.reverse.flatten.length = size) (hlt : size < limit) :
    (readChunks limit steps size out b).1.map (·.flatten.take limit) =
      opening limit (.octets out.reverse.flatten :: b.unread) := by
  induction steps generalizing b size out with
  | zero => cases hsteps
  | succ steps ih =>
    have hgives := gives_pullOctets h
    have hseen : out.reverse.flatten.length < limit := hsize ▸ hlt
    rw [readChunks]
    generalize b.pullOctets = answer at hgives
    cases hgives with
    | ended hu =>
      rw [hu, opening_of_lt hseen]
      exact congrArg Except.ok (List.take_of_length_le (Nat.le_of_lt hseen))
    | fault hu =>
      rw [hu, opening_fault hseen]
      rfl
    | @octets bs b' hu hleft hb =>
      have hout : (bs :: out).reverse.flatten = out.reverse.flatten ++ bs := by simp
      have hcount : (bs :: out).reverse.flatten.length = size + bs.length := by
        rw [hout, List.length_append, hsize]
      rw [hu, opening_append, ← hout]
      dsimp only
      split
      · next hle => rw [opening_of_le (hcount ▸ hle)]; rfl
      · next hle => exact ih hb (by omega) hcount (Nat.lt_of_not_le hle)

theorem octetCount_map_octets (cut : List (List UInt8)) :
    octetCount (cut.map .octets) = cut.flatten.length := by
  induction cut with
  | nil => rfl
  | cons bs cut ih => rw [List.map_cons, octetCount, ih, List.flatten_cons, List.length_append]

theorem pulled_readChunks (out : List (List UInt8)) (h : b.Unfinished) (hsteps : b.left.length < steps)
    (hlt : size < limit) :
    ∃ n ≤ b.unread.length,
      (readChunks limit steps size out b).2.pulled = b.pulled + n ∧
        ∀ k < n, size + octetCount (b.unread.take k) < limit := by
  -- `size` counts the octets of the chunks before, so every chunk but the last is within the limit
  induction steps generalizing b size out with
  | zero => cases hsteps
  | succ steps ih =>
    have hgives := gives_pullOctets h
    rw [readChunks]
    generalize b.pullOctets = answer at hgives
    cases hgives with
    | ended hu hpulled => exact ⟨0, Nat.zero_le _, hpulled, by simp⟩
    | fault hu hpulled =>
      refine ⟨1, by simp [hu], hpulled, ?_⟩
      simpa [octetCount] using hlt
    | @octets bs b' hu hleft hb hpulled =>
      have hfirst : ∀ k < 1, size + octetCount (b.unread.take k) < limit := by
        simpa [octetCount] using hlt
      dsimp only
      split
      · exact ⟨1, by simp [hu], hpulled, hfirst⟩
      · next hle =>
        obtain ⟨n, hn, hcount, hbound⟩ := ih (bs :: out) hb (by omega) (Nat.lt_of_not_le hle)
        refine ⟨n + 1, by simpa [hu] using hn, by omega, fun k hk => ?_⟩
        cases k with
        | zero => exact hfirst 0 Nat.one_pos
        | succ k =>
          have hk' := hbound k (by omega)
          rw [hu, List.take_succ_cons, octetCount]
          omega

end Loop

theorem readOctets_eq_opening (hlimit : 0 < limit) (h : b.Unfinished) :
    (b.readOctets limit).1 = opening limit b.unread := by
  have hsize : ([] : List (List UInt8)).reverse.flatten.length = 0 := rfl
  have hread := readChunks_eq_opening h (Nat.lt_succ_self b.left.length) hsize hlimit
  have hnil : opening limit (.octets [] :: b.unread) =
      opening limit b.unread := rfl
  rw [← hnil]
  exact hread

theorem pulled_readOctets (hlimit : 0 < limit) (h : b.Unfinished) :
    ∃ n ≤ b.unread.length, (b.readOctets limit).2.pulled = b.pulled + n ∧
      ∀ k < n, octetCount (b.unread.take k) < limit := by
  obtain ⟨n, hn, hpulled, hbound⟩ :=
    pulled_readChunks [] h (Nat.lt_succ_self b.left.length) hlimit
  exact ⟨n, hn, hpulled, by simpa using hbound⟩

end ClusterHealth.Web.Body

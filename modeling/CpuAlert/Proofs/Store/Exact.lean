import CpuAlert.Proofs.Store.ReadBack

/-!
# What a file keeps exactly

Three things do not come back from a database file as they were put in: a double
that is not a number, the sign of zero, and whatever of an instant is less than
a millisecond or inside a leap second. A configuration or an event that has none
of these is given back as it was, and so is everything else about it: its lists
are columns of JSON text, and a number of attempts that has thirty-two bits, or
a pause that has sixty-four, is read from such a text as it was written.

## Main definitions

* `IsExactDouble`, `Time.Instant.IsWhole` — doubles and instants that a file keeps
* `Config.IsExact`, `Event.Draft.IsExact` — the same for configurations and events

## Main results

* `unsigned_eq_self` — only the negative zero has a sign to lose
* `Database.readBack_eq_self` — a configuration comes back as it was
* `Database.EventRow.event_ofDraft` — and so does an event
-/

namespace CpuAlert

open Json
open Float.Model (UnpackedFloat)
open Time (Instant)

/-! ## Doubles -/

/-- A double that a file keeps: a number, and not the negative zero. -/
structure IsExactDouble (x : Float) : Prop where
  isNaN_eq_false : x.isNaN = false
  ne_neg_zero : x ≠ -0.0

/-- The two zeros have no bit but that of the sign. -/
theorem toBits_of_unpack_eq_zero {f : Float.Model} {s : UnpackedFloat.Sign}
    (h : f.unpack = .zero s) : f.toBits = 0 ∨ f.toBits = 0x8000000000000000 := by
  delta Float.Model.unpack UnpackedFloat.unpack at h
  dsimp only at h
  by_cases hones : @UnpackedFloat.unpackExponent .binary64 f.toBits.toBitVec = -1#11
  · rw [if_pos hones] at h
    by_cases hmantissa : @UnpackedFloat.unpackMantissa .binary64 f.toBits.toBitVec = 0#52
    · rw [if_pos hmantissa] at h
      cases h
    · rw [if_neg hmantissa] at h
      cases h
  rw [if_neg hones] at h
  by_cases hexponent : @UnpackedFloat.unpackExponent .binary64 f.toBits.toBitVec = 0#11
  · rw [if_pos hexponent] at h
    by_cases hmantissa : @UnpackedFloat.unpackMantissa .binary64 f.toBits.toBitVec = 0#52
    · -- exponent and mantissa are what is left of the bits without the sign
      have hexponent' : f.toBits.toNat / 2 ^ 52 % 2 ^ 11 = 0 := by
        simpa [UnpackedFloat.unpackExponent, Nat.shiftRight_eq_div_pow] using
          congrArg BitVec.toNat hexponent
      have hmantissa' : f.toBits.toNat % 2 ^ 52 = 0 := by
        simpa [UnpackedFloat.unpackMantissa] using congrArg BitVec.toNat hmantissa
      have hlt := f.toBits.toNat_lt
      have hcases : f.toBits.toNat = 0 ∨ f.toBits.toNat = 0x8000000000000000 := by omega
      exact hcases.imp (fun h => UInt64.toNat_inj.mp h) fun h => UInt64.toNat_inj.mp h
    · rw [dif_neg hmantissa] at h
      cases h
  · rw [if_neg hexponent] at h
    cases h

/-- A double that equals zero is zero, unless it is the negative zero. -/
theorem eq_zero_of_beq {x : Float} (h : (x == 0) = true) (hx : x ≠ -0.0) : x = 0 := by
  have hbeq : x.toModel.unpack.beq (0 : Float).toModel.unpack = true := h
  have hzero : (0 : Float).toModel.unpack = .zero .positive := rfl
  rw [hzero] at hbeq
  obtain ⟨s, hs⟩ : ∃ s, x.toModel.unpack = .zero s := by
    rcases hunpack : x.toModel.unpack with s | _ | s | ⟨s, m, e, hm⟩
    · rw [hunpack] at hbeq
      cases s <;> cases hbeq
    · rw [hunpack] at hbeq
      cases hbeq
    · exact ⟨s, rfl⟩
    · rw [hunpack] at hbeq
      cases s <;> cases hbeq
  obtain ⟨⟨bits, hvalid⟩⟩ := x
  rcases toBits_of_unpack_eq_zero hs with hbits | hbits
  · cases hbits
    rfl
  · cases hbits
    exact absurd rfl hx

/-- Only the negative zero has a sign to lose. -/
theorem unsigned_eq_self {x : Float} (hx : x ≠ -0.0) : unsigned x = x := by
  rw [unsigned]
  split
  · rename_i hzero
    exact (eq_zero_of_beq hzero hx).symm
  · rfl

/-! ## Instants -/

namespace Time.Instant

/-- An instant of whole milliseconds, outside a leap second. -/
structure IsWhole (a : Instant) : Prop where
  nano_lt : a.nano < nanosPerSecond
  nano_mod : a.nano % 1000000 = 0

variable {a b : Instant}

/-- Such an instant comes back from its milliseconds, whatever the present is. -/
theorem IsWhole.instantColumn_eq (h : a.IsWhole) (now : Instant) :
    Database.instantColumn now a.toMillis = a := by
  rw [Database.instantColumn, ofMillis?_toMillis h.nano_lt h.nano_mod]
  rfl

/-- Their milliseconds are in the order of the instants. -/
theorem IsWhole.toMillis_lt_iff (ha : a.IsWhole) (hb : b.IsWhole) :
    a.toMillis < b.toMillis ↔ a < b := by
  have ha' := ha.nano_lt
  have hb' := hb.nano_lt
  have ha'' := ha.nano_mod
  have hb'' := hb.nano_mod
  simp only [nanosPerSecond] at ha' hb'
  rw [toMillis, toMillis, lt_def]
  omega

end Time.Instant

/-! ## Configurations -/

/-- A configuration that a file gives back as it was. -/
structure Config.IsExact (c : Config) : Prop extends c.IsStorable where
  warning_ne : c.warningPercent ≠ -0.0
  critical_ne : c.criticalPercent ≠ -0.0
  recovery_ne : c.recoveryPercent ≠ -0.0

theorem Config.isExact_default : Config.IsExact {} where
  warning := rfl
  critical := rfl
  recovery := rfl
  delays_ne_nil := by decide
  delays_le := by decide
  warning_ne := by decide
  critical_ne := by decide
  recovery_ne := by decide

theorem Database.readBack_eq_self {c : Config} (h : c.IsExact) : readBack c = c := by
  rw [readBack_eq h.toIsStorable, unsigned_eq_self h.warning_ne, unsigned_eq_self h.critical_ne,
    unsigned_eq_self h.recovery_ne]

/-! ## Events -/

/-- An event that a file gives back as it was. -/
structure Event.Draft.IsExact (d : Event.Draft) : Prop where
  cpuPercent : IsExactDouble d.cpuPercent
  createdAt : d.createdAt.IsWhole
  attempts_le : ∀ r ∈ d.channels, r.attempts ≤ 0xFFFFFFFF

namespace Json.Decoder

variable {σ : Type}

/-- A member whose name was not met yet is stored in its field. -/
theorem members_cons {fields : List (Field σ)} {seen : List String} {s : σ} {name : String}
    {d : Doc} {rest : List (Key × Doc)} (f : Field σ) (s' : σ)
    (hfind : fields.find? (·.name == name) = some f) (hseen : seen.contains name = false)
    (hstore : f.store d s = .ok s') :
    members fields seen s ((.text (some name), d) :: rest) =
      members fields (name :: seen) s' rest := by
  rw [members]
  simp only [Key.name, bind, Except.bind, hfind, hseen, hstore, Bool.false_eq_true, if_false]

end Json.Decoder

open Json.Decoder in
/-- What became of a message in one channel is read as it was written. -/
theorem Wire.channelOutcome_ofValue {r : ChannelOutcome} (h : r.attempts ≤ 0xFFFFFFFF) :
    channelOutcome (.ofValue r.toJson) = .ok r := by
  obtain ⟨channel, success, attempts, errorMessage⟩ := r
  have hattempts : natural 32 (.number (some (.whole attempts))) = .ok attempts :=
    natural_ofValue (Nat.lt_succ_of_le h)
  -- the first three members are always there
  let docs : List (Key × Doc) :=
    [(.text (some "channel"), .text (some channel)), (.text (some "success"), .bool success),
      (.text (some "attempts"), .number (some (.whole attempts)))]
  have hfirst (rest : List (Key × Doc)) : members channelOutcomeFields [] default (docs ++ rest) =
      members channelOutcomeFields ["attempts", "success", "channel"]
        { channel, success, attempts } rest := by
    simp only [docs, List.cons_append, List.nil_append]
    rw [members_cons (.of "channel" .required text fun a r => { r with channel := a })
        { channel } rfl rfl rfl,
      members_cons (.of "success" .required bool fun a r => { r with success := a })
        { channel, success } rfl rfl rfl,
      members_cons (.of "attempts" .required (natural 32) fun a r => { r with attempts := a })
        { channel, success, attempts } rfl rfl (by simp only [Field.of, hattempts]; rfl)]
  cases errorMessage with
  | none =>
    show record channelOutcomeFields default (.object (docs ++ []) none) = _
    rw [record, hfirst]
    rfl
  | some reason =>
    show record channelOutcomeFields default
      (.object (docs ++ [(.text (some "error_message"), .text (some reason))]) none) = _
    rw [record, hfirst, members_cons
      (.of "error_message" .defaulted (optional text) fun a r => { r with errorMessage := a })
      { channel, success, attempts, errorMessage := reason } rfl rfl rfl]
    rfl

theorem ChannelOutcome.toJson_isExact {r : ChannelOutcome} (h : r.attempts ≤ 0xFFFFFFFF) :
    r.toJson.IsExact := by
  have hattempts : Value.IsExact (.int r.attempts) := .int (by omega) (by omega)
  refine .object fun m hm => ?_
  rcases List.mem_append.mp hm with hm | hm
  · simp only [List.mem_cons, List.not_mem_nil, or_false] at hm
    rcases hm with rfl | rfl | rfl
    · exact .text _
    · exact .bool _
    · exact hattempts
  · cases herror : r.errorMessage with
    | none =>
      rw [herror] at hm
      cases hm
    | some reason =>
      rw [herror, optionalMember, List.mem_singleton] at hm
      exact hm ▸ .text reason

namespace Database

/-- What became of a message in all channels comes back from its column. -/
theorem listColumn_outcomes {rs : List ChannelOutcome} (h : ∀ r ∈ rs, r.attempts ≤ 0xFFFFFFFF) :
    listColumn Wire.channelOutcome (Value.array (rs.map ChannelOutcome.toJson)).write = rs :=
  listColumn_write (fun r hr => ChannelOutcome.toJson_isExact (h r hr)) fun r hr =>
    Wire.channelOutcome_ofValue (h r hr)

/-- An event comes back from its row. -/
theorem EventRow.event_ofDraft {d : Event.Draft} (h : d.IsExact) (id : Int) (now : Instant) :
    (EventRow.ofDraft id d).event now = .ok (d.numbered id) := by
  have hcpu : (Cell.ofFloat d.cpuPercent).readReal "cpu_percent" = .ok d.cpuPercent := by
    rw [readReal_ofFloat h.cpuPercent.isNaN_eq_false]
    exact congrArg Except.ok (unsigned_eq_self h.cpuPercent.ne_neg_zero)
  simp only [EventRow.event, EventRow.ofDraft, Level.ofName?_name, Option.getD_some, hcpu,
    listColumn_outcomes h.attempts_le, Cell.readInt, bind, Except.bind,
    h.createdAt.instantColumn_eq]
  rfl

end Database

end CpuAlert

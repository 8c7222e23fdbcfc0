import Mathlib.Data.BitVec

/-!
# Backup schedules

`NewBackupSchedule` of the `operator` package: a schedule runs a backup module every
`freqBlocks` blocks or, when that is not given, every `freqTime`.

    case freqBlocks != "":
        freqUint, err := strconv.ParseUint(freqBlocks, 10, 64)
        if err != nil || freqUint == 0 {
            return nil, fmt.Errorf("invalid value for freq_block in backup schedule (err: %w)", err)
        }
        return &BackupSchedule{BlocksBetweenRuns: int(freqUint), ...}, nil

`BlocksBetweenRuns` is a Go `int`, a 64-bit two's complement word on the platforms the
node runs on, and `int(freqUint)` keeps the bits of the `uint64`: a value from `2^63` on
becomes negative. `time.Duration` is also a 64-bit word, of nanoseconds.

`strconv.ParseUint(s, 10, 64)` is modelled as Go computes it; `time.ParseDuration`, of
the standard library too, is a parameter, since no result here depends on how it parses.
`newBackupSchedule_ok` reads off what the two branches that succeed return.

## What is proved

* `parseUint_eq_ok_iff`: `ParseUint` accepts exactly a nonempty string of decimal digits
  whose value fits a `uint64`, and returns that value.
* `newBackupSchedule_block_cadence`: a block cadence is accepted exactly when it is the
  numeral of a value `v` from `1` to `2^64 - 1`, and `BlocksBetweenRuns` is then `v`
  below `2^63` and `v - 2^64`, negative, from it on.
* `newBackupSchedule_negative_cadence`: `"9223372036854775808"` blocks is accepted and
  gives a negative `BlocksBetweenRuns`.
-/

namespace NodeManager.Backup

/-- `BackupSchedule`. -/
structure BackupSchedule where
  /-- `BlocksBetweenRuns int`. -/
  blocksBetweenRuns : BitVec 64
  /-- `TimeBetweenRuns time.Duration`, in nanoseconds. -/
  timeBetweenRuns : BitVec 64
  /-- `RequiredHostnameMatch`: the backup runs only on this host, when it is not empty. -/
  requiredHostnameMatch : String
  /-- `BackuperName`: the registered backup module the schedule runs. -/
  backuperName : String
  deriving DecidableEq, Repr

/-- `time.Minute`, in nanoseconds. -/
def minute : BitVec 64 := 60000000000

/-- `strconv.ErrSyntax` and `strconv.ErrRange`. -/
inductive NumErr where
  /-- `invalid syntax`. -/
  | invalid
  /-- `value out of range`. -/
  | outOfRange
  deriving DecidableEq, Repr

/-- `*strconv.NumError`: the function, its input, and what went wrong. -/
structure NumError where
  /-- `Func`. -/
  func : String
  /-- `Num`. -/
  num : String
  /-- `Err`. -/
  err : NumErr
  deriving DecidableEq, Repr

/-- `1<<64 - 1`, the largest `uint64`. -/
def maxUint64 : Nat := 2 ^ 64 - 1

/-- The digit loop of `strconv.ParseUint(s, 10, 64)`, from the value `n` read so far: a
character that is not a decimal digit is a syntax error, and a value past `maxUint64`
a range error, whichever comes first. Go runs over the bytes of `s`; a character
outside ASCII is a syntax error at its first byte, as it is here. -/
def parseUintDigits : List Char → Nat → Except NumErr Nat
  | [], n => .ok n
  | c :: cs, n =>
    if '0' ≤ c ∧ c ≤ '9' then
      if maxUint64 / 10 + 1 ≤ n then .error .outOfRange
      else if maxUint64 < n * 10 + (c.toNat - '0'.toNat) then .error .outOfRange
      else parseUintDigits cs (n * 10 + (c.toNat - '0'.toNat))
    else .error .invalid

/-- `strconv.ParseUint(s, 10, 64)`. -/
def parseUint (s : String) : Except NumError UInt64 :=
  if s = "" then .error ⟨"ParseUint", s, .invalid⟩
  else
    match parseUintDigits s.toList 0 with
    | .ok n => .ok (UInt64.ofNat n)
    | .error e => .error ⟨"ParseUint", s, e⟩

/-- The value of the decimal digits `cs`, read after the value `n`. -/
def decimalValue (n : Nat) (cs : List Char) : Nat :=
  cs.foldl (fun n c => n * 10 + (c.toNat - '0'.toNat)) n

theorem le_decimalValue (n : Nat) (cs : List Char) : n ≤ decimalValue n cs := by
  induction cs generalizing n with
  | nil => exact le_rfl
  | cons c cs ih => exact le_trans (by omega) (ih (n * 10 + (c.toNat - '0'.toNat)))

theorem maxUint64_eq : maxUint64 = 18446744073709551615 := rfl

/-- The digit loop accepts exactly decimal digits whose value stays within a `uint64`, and
returns that value. -/
theorem parseUintDigits_eq_ok_iff (cs : List Char) {n : Nat} (hn : n ≤ maxUint64) (m : Nat) :
    parseUintDigits cs n = .ok m ↔
      (∀ c ∈ cs, '0' ≤ c ∧ c ≤ '9') ∧ decimalValue n cs ≤ maxUint64 ∧
        m = decimalValue n cs := by
  induction cs generalizing n with
  | nil => simp [parseUintDigits, decimalValue, hn, eq_comm]
  | cons c cs ih =>
    have hle := le_decimalValue (n * 10 + (c.toNat - '0'.toNat)) cs
    have hmax := maxUint64_eq
    rw [show decimalValue n (c :: cs) = decimalValue (n * 10 + (c.toNat - '0'.toNat)) cs from rfl]
    unfold parseUintDigits
    split_ifs with hd hcut hover
    · exact iff_of_false (by simp) fun ⟨_, h, _⟩ => by omega
    · exact iff_of_false (by simp) fun ⟨_, h, _⟩ => by omega
    · rw [ih (by omega)]
      simp [hd]
    · exact iff_of_false (by simp) fun ⟨h, _⟩ => hd (h c (.head _))

/-- `ParseUint(s, 10, 64)` accepts exactly a nonempty string of decimal digits whose value
fits a `uint64`, and returns that value. -/
theorem parseUint_eq_ok_iff (s : String) (u : UInt64) :
    parseUint s = .ok u ↔ s ≠ "" ∧ (∀ c ∈ s.toList, '0' ≤ c ∧ c ≤ '9') ∧
      decimalValue 0 s.toList ≤ maxUint64 ∧ u = UInt64.ofNat (decimalValue 0 s.toList) := by
  unfold parseUint
  split_ifs with hs
  · simp [hs]
  · have h := parseUintDigits_eq_ok_iff s.toList (Nat.zero_le maxUint64)
    split
    · rename_i n hn
      obtain ⟨hd, hv, rfl⟩ := (h n).mp hn
      exact ⟨fun h => ⟨hs, hd, hv, (Except.ok.inj h).symm⟩,
        fun ⟨_, _, _, h⟩ => h ▸ rfl⟩
    · rename_i e he
      refine iff_of_false (by simp) fun ⟨_, hd, hv, _⟩ => ?_
      rw [(h _).mpr ⟨hd, hv, rfl⟩] at he
      cases he

/-- `int(v)` of a `uint64` `v`, on a 64-bit `int`: `v` below `2^63`, `v - 2^64` from it on. -/
theorem toInt_ofNat_64 {v : Nat} (hv : v ≤ maxUint64) :
    (BitVec.ofNat 64 v).toInt = if v < 2 ^ 63 then (v : Int) else (v : Int) - 2 ^ 64 := by
  rw [BitVec.toInt_ofNat, Int.bmod]
  have hmax := maxUint64_eq
  have hmod : ((v : Int) % (2 ^ 64 : Nat)) = v := Int.emod_eq_of_lt (by omega) (by simp; omega)
  simp only [hmod]
  split_ifs <;> omega

/-- A value that fits a `uint64` is `0` exactly when its `uint64` is. -/
theorem uint64_ofNat_eq_zero_iff {v : Nat} (hv : v ≤ maxUint64) :
    UInt64.ofNat v = 0 ↔ v = 0 := by
  refine ⟨fun h => ?_, fun h => by rw [h]; rfl⟩
  have := congrArg (fun x : UInt64 => x.toBitVec.toNat) h
  change (BitVec.ofNat 64 v).toNat = 0 at this
  rwa [BitVec.toNat_ofNat, Nat.mod_eq_of_lt (by rw [maxUint64_eq] at hv; omega)] at this

/-- The errors `NewBackupSchedule` returns. -/
inductive ScheduleError where
  /-- `invalid value for freq_block in backup schedule (err: %w)`, with `ParseUint`'s error,
  or none for a zero value. -/
  | invalidFreqBlock (err : Option NumError)
  /-- `invalid value for freq_time in backup schedule(duration: %s, err: %w)`, with the
  duration parsed (zero on a parse error) and `ParseDuration`'s error. -/
  | invalidFreqTime (duration : BitVec 64) (err : Option String)
  /-- `schedule created without any frequency value`. -/
  | noFrequency
  deriving DecidableEq, Repr

section

variable (parseDuration : String → Except String (BitVec 64))

/-- `NewBackupSchedule(freqBlocks, freqTime, requiredHostname, backuperName)`, with
`time.ParseDuration` as `parseDuration`. -/
def newBackupSchedule (freqBlocks freqTime requiredHostname backuperName : String) :
    Except ScheduleError BackupSchedule :=
  if freqBlocks ≠ "" then
    match parseUint freqBlocks with
    | .error err => .error (.invalidFreqBlock (some err))
    | .ok freqUint =>
      if freqUint = 0 then .error (.invalidFreqBlock none)
      else .ok ⟨freqUint.toBitVec, 0, requiredHostname, backuperName⟩
  else if freqTime ≠ "" then
    match parseDuration freqTime with
    | .error err => .error (.invalidFreqTime 0 (some err))
    | .ok freqTime =>
      if freqTime.slt minute then .error (.invalidFreqTime freqTime none)
      else .ok ⟨0, freqTime, requiredHostname, backuperName⟩
  else .error .noFrequency

/-- What a schedule `NewBackupSchedule` accepts holds: a block cadence of the bits of a
nonzero `uint64` that `ParseUint` read and no time cadence, or no block cadence and a
time cadence of a minute or more; the hostname and the module name as given. -/
theorem newBackupSchedule_ok {freqBlocks freqTime requiredHostname backuperName : String}
    {s : BackupSchedule}
    (h : newBackupSchedule parseDuration freqBlocks freqTime requiredHostname backuperName = .ok s) :
    s.requiredHostnameMatch = requiredHostname ∧ s.backuperName = backuperName ∧
      ((∃ u : UInt64, parseUint freqBlocks = .ok u ∧ u ≠ 0 ∧
          s.blocksBetweenRuns = u.toBitVec ∧ s.timeBetweenRuns = 0) ∨
        (s.blocksBetweenRuns = 0 ∧ s.timeBetweenRuns.slt minute = false)) := by
  unfold newBackupSchedule at h
  split_ifs at h with hb ht
  · split at h
    · cases h
    · rename_i u hu
      split_ifs at h with h0
      cases h
      exact ⟨rfl, rfl, .inl ⟨u, hu, h0, rfl, rfl⟩⟩
  · split at h
    · cases h
    · split_ifs at h with hm
      cases h
      exact ⟨rfl, rfl, .inr ⟨rfl, by simpa using hm⟩⟩

/-- A block cadence `NewBackupSchedule` accepts: `freqBlocks` is a decimal numeral of a
value `v` from `1` to `2^64 - 1`, and `BlocksBetweenRuns`, read as a Go `int`, is `v`
below `2^63` and `v - 2^64` from it on; no time cadence; the hostname and the module name
as given. -/
theorem newBackupSchedule_block_cadence {freqBlocks freqTime requiredHostname backuperName : String}
    {s : BackupSchedule} (hb : freqBlocks ≠ "") :
    newBackupSchedule parseDuration freqBlocks freqTime requiredHostname backuperName = .ok s ↔
      (∀ c ∈ freqBlocks.toList, '0' ≤ c ∧ c ≤ '9') ∧ 0 < decimalValue 0 freqBlocks.toList ∧
        decimalValue 0 freqBlocks.toList ≤ maxUint64 ∧
        s.blocksBetweenRuns.toInt = (if decimalValue 0 freqBlocks.toList < 2 ^ 63
          then (decimalValue 0 freqBlocks.toList : Int)
          else (decimalValue 0 freqBlocks.toList : Int) - 2 ^ 64) ∧
        s.timeBetweenRuns = 0 ∧ s.requiredHostnameMatch = requiredHostname ∧
        s.backuperName = backuperName := by
  unfold newBackupSchedule
  rw [if_pos hb]
  split
  · rename_i e he
    refine iff_of_false (by simp) fun ⟨hd, _, hv, _⟩ => ?_
    rw [(parseUint_eq_ok_iff _ _).mpr ⟨hb, hd, hv, rfl⟩] at he
    cases he
  · rename_i u hu
    obtain ⟨-, hd, hv, rfl⟩ := (parseUint_eq_ok_iff _ _).mp hu
    have h0 := uint64_ofNat_eq_zero_iff hv
    rw [← toInt_ofNat_64 hv, BitVec.toInt_inj]
    split_ifs with hz
    · exact iff_of_false (by simp) fun ⟨_, hpos, _⟩ => by rw [h0.mp hz] at hpos; cases hpos
    · have hpos : 0 < decimalValue 0 freqBlocks.toList := Nat.pos_of_ne_zero (mt h0.mpr hz)
      cases s
      refine ⟨fun h => ?_, fun ⟨_, _, _, h1, h2, h3, h4⟩ => ?_⟩
      · cases h
        exact ⟨hd, hpos, hv, rfl, rfl, rfl, rfl⟩
      · subst h1 h2 h3 h4
        rfl

/-- `newBackupSchedule_block_cadence` on `"100"`. -/
theorem newBackupSchedule_block_cadence_100 : "100" ≠ "" ∧
    (newBackupSchedule (fun _ => .error "") "100" "" "" "" = .ok ⟨100, 0, "", ""⟩ ↔
      (∀ c ∈ "100".toList, '0' ≤ c ∧ c ≤ '9') ∧ 0 < decimalValue 0 "100".toList ∧
        decimalValue 0 "100".toList ≤ maxUint64 ∧
        (100 : BitVec 64).toInt = (if decimalValue 0 "100".toList < 2 ^ 63
          then (decimalValue 0 "100".toList : Int)
          else (decimalValue 0 "100".toList : Int) - 2 ^ 64) ∧
        (0 : BitVec 64) = 0 ∧ "" = "" ∧ "" = "") :=
  ⟨by decide, newBackupSchedule_block_cadence _ (by decide)⟩

/-- `"9223372036854775808"`, `2^63`, is accepted as a block cadence and becomes the most
negative `int`. -/
theorem newBackupSchedule_negative_cadence :
    ∃ s, newBackupSchedule parseDuration "9223372036854775808" "" "" "" = .ok s ∧
      s.blocksBetweenRuns.toInt = -9223372036854775808 :=
  ⟨_, rfl, by decide⟩

end

end NodeManager.Backup

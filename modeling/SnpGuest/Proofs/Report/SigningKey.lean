import SnpGuest.Proofs.Report.Verdict

namespace SnpGuest

/-!
# The signing key in the key word

Three bits of the key word name the key that signed a report; the other 29 have their own meanings.
Two laws say what happens bit by bit: which bits the word has after a key was named
(`Report.testBit_withSigningKey`), and which bits a word with a given key has
(`Report.signingKey?_eq_some_iff`).  What is said about whole reports follows from them, since a
word is its bits.
-/

/-- The three bits of a number from the second on, as a number and one by one. -/
theorem div_mod_eq_iff_testBit (word : Nat) {code : Nat} (hSmall : code < 2 ^ 3) :
    word / 2 ^ 2 % 2 ^ 3 = code ↔
      ∀ bit < 3, word.testBit (bit + 2) = code.testBit bit := by
  have hBit : ∀ bit, (word / 2 ^ 2 % 2 ^ 3).testBit bit =
      (decide (bit < 3) && word.testBit (bit + 2)) := fun bit => by
    rw [Nat.testBit_mod_two_pow, Nat.testBit_div_two_pow]
  constructor
  · rintro rfl bit hInside
    rw [hBit, decide_eq_true hInside, Bool.true_and]
  · intro hSame
    apply Nat.eq_of_testBit_eq
    intro bit
    rw [hBit]
    by_cases hInside : bit < 3
    · rw [decide_eq_true hInside, Bool.true_and, hSame bit hInside]
    · have hHigh : code < 2 ^ bit :=
        Nat.lt_of_lt_of_le hSmall (Nat.pow_le_pow_right (by decide) (Nat.not_lt.mp hInside))
      rw [decide_eq_false hInside, Bool.false_and, Nat.testBit_lt_two_pow hHigh]

theorem testBit_word_of_le (word : UInt32) {bit : Nat} (hHigh : 32 ≤ bit) :
    word.toNat.testBit bit = false :=
  Nat.testBit_lt_two_pow
    (Nat.lt_of_lt_of_le word.toNat_lt (Nat.pow_le_pow_right (by decide) hHigh))

namespace SigningKey

theorem ofCode?_eq_some_iff (code : UInt32) (key : SigningKey) :
    ofCode? code = some key ↔ code = key.code := by
  constructor
  · intro hFound
    rw [ofCode?] at hFound
    have hCode := List.find?_some hFound
    exact (beq_iff_eq.mp hCode).symm
  · rintro rfl
    cases key <;> rfl

theorem code_lt (key : SigningKey) : key.code.toNat < 2 ^ 3 := by
  cases key <;> decide

/-- The mask that clears the bits of the key. -/
theorem testBit_mask : ∀ bit < 32,
    (~~~(0x1c : UInt32)).toNat.testBit bit = !decide (2 ≤ bit ∧ bit < 5) := by
  decide

theorem testBit_shifted (key : SigningKey) : ∀ bit < 32,
    (key.code <<< 2).toNat.testBit bit =
      (decide (2 ≤ bit ∧ bit < 5) && key.code.toNat.testBit (bit - 2)) := by
  cases key <;> decide

end SigningKey

namespace Report

/-! ## Naming and reading -/

/-- A word with a key has the bits of its code from the second to the fourth, and keeps the old
ones everywhere else. -/
theorem testBit_withSigningKey (report : Report) (key : SigningKey) (bit : Nat) :
    (report.withSigningKey key).body.keyInfo.toNat.testBit bit =
      if 2 ≤ bit ∧ bit < 5 then key.code.toNat.testBit (bit - 2)
      else report.body.keyInfo.toNat.testBit bit := by
  by_cases hWord : bit < 32
  · show ((report.body.keyInfo &&& ~~~(0x1c : UInt32)) ||| (key.code <<< 2)).toNat.testBit bit = _
    rw [UInt32.toNat_or, UInt32.toNat_and, Nat.testBit_or, Nat.testBit_and,
      SigningKey.testBit_mask bit hWord, key.testBit_shifted bit hWord]
    by_cases hInside : 2 ≤ bit ∧ bit < 5
    · simp [hInside]
    · simp [hInside]
  · have hHigh : 32 ≤ bit := Nat.not_lt.mp hWord
    rw [testBit_word_of_le _ hHigh, testBit_word_of_le _ hHigh, if_neg (by omega)]

theorem signingKey?_eq_some_iff (report : Report) (key : SigningKey) :
    report.signingKey? = some key ↔
      ∀ bit < 3, report.body.keyInfo.toNat.testBit (bit + 2) = key.code.toNat.testBit bit := by
  rw [signingKey?, SigningKey.ofCode?_eq_some_iff, ← UInt32.toNat_inj, toNat_keyBits]
  exact div_mod_eq_iff_testBit _ key.code_lt

theorem signingKey?_withSigningKey (report : Report) (key : SigningKey) :
    (report.withSigningKey key).signingKey? = some key := by
  rw [signingKey?_eq_some_iff]
  intro bit hInside
  rw [testBit_withSigningKey, if_pos (by omega), Nat.add_sub_cancel]

/-- The other bits of the key word have no say. -/
theorem signingKey?_congr {left right : Report}
    (hBits : ∀ bit < 3, left.body.keyInfo.toNat.testBit (bit + 2) =
      right.body.keyInfo.toNat.testBit (bit + 2)) :
    left.signingKey? = right.signingKey? := by
  apply Option.ext
  intro key
  rw [signingKey?_eq_some_iff, signingKey?_eq_some_iff]
  exact forall₂_congr fun bit hInside => by rw [hBits bit hInside]

/-! ## Frame -/

theorem withSigningKey_eq_set (report : Report) (key : SigningKey) :
    report.withSigningKey key =
      report.set .keyInfo (.ofUInt32 (report.withSigningKey key).body.keyInfo) := by
  show _ = { report with
    body.keyInfo := (Block.ofUInt32 (report.withSigningKey key).body.keyInfo).toUInt32 }
  rw [Block.toUInt32_ofUInt32]
  rfl

theorem keyInfo_eq_of_testBit {left right : Report}
    (hBits : ∀ bit, left.body.keyInfo.toNat.testBit bit = right.body.keyInfo.toNat.testBit bit) :
    left.body.keyInfo = right.body.keyInfo :=
  UInt32.toNat_inj.mp (Nat.eq_of_testBit_eq hBits)

theorem withSigningKey_withSigningKey (report : Report) (key later : SigningKey) :
    (report.withSigningKey key).withSigningKey later = report.withSigningKey later := by
  have hWord : ((report.withSigningKey key).withSigningKey later).body.keyInfo =
      (report.withSigningKey later).body.keyInfo := by
    apply keyInfo_eq_of_testBit
    intro bit
    rw [testBit_withSigningKey, testBit_withSigningKey, testBit_withSigningKey]
    split <;> rfl
  exact congrArg (fun word => { report with body.keyInfo := word }) hWord

theorem withSigningKey_of_named {report : Report} {key : SigningKey}
    (hNamed : report.signingKey? = some key) : report.withSigningKey key = report := by
  have hCode := (signingKey?_eq_some_iff report key).mp hNamed
  have hWord : (report.withSigningKey key).body.keyInfo = report.body.keyInfo := by
    apply keyInfo_eq_of_testBit
    intro bit
    rw [testBit_withSigningKey]
    split
    · rename_i hInside
      rw [← hCode (bit - 2) (by omega), Nat.sub_add_cancel hInside.1]
    · rfl
  exact congrArg (fun word => { report with body.keyInfo := word }) hWord

/-- The bytes of the key word are the new ones, and all others the old ones. -/
theorem toList_toBlock_withSigningKey (report : Report) (key : SigningKey) :
    (report.withSigningKey key).toBlock.toList =
      report.toBlock.toList.take 72 ++
        ((Block.ofUInt32 (report.withSigningKey key).body.keyInfo).toList ++
          report.toBlock.toList.drop 76) := by
  have hBytes := toBlock_set report .keyInfo
    (.ofUInt32 (report.withSigningKey key).body.keyInfo)
  rw [← withSigningKey_eq_set] at hBytes
  rw [hBytes]
  rfl

/-! ## Validation -/

/-- Naming a key takes the flaw of an unknown key away, and no other flaw comes or goes. -/
theorem has_withSigningKey_iff (report : Report) (key : SigningKey) (flaw : ReportFlaw) :
    (report.withSigningKey key).Has flaw ↔ flaw ≠ .unknownSigningKey ∧ report.Has flaw := by
  cases flaw with
  | unknownSigningKey => simp [Has, signingKey?_withSigningKey]
  | _ => exact (and_iff_right (by decide)).symm

theorem validate_withSigningKey_eq_ok_iff (report : Report) (key : SigningKey) :
    (report.withSigningKey key).validate = .ok () ↔
      ∀ flaw : ReportFlaw, flaw ≠ .unknownSigningKey → ¬ flaw.IsIn report.toBlock := by
  rw [validate_eq_firstOf, ReportFlaw.firstOf_eq_ok_iff]
  simp only [ReportFlaw.mem_inOrder, forall_true_left, has_withSigningKey_iff, not_and,
    isIn_toBlock_iff]

theorem validate_withSigningKey_of_ok {report : Report} (hValid : report.validate = .ok ())
    (key : SigningKey) : (report.withSigningKey key).validate = .ok () := by
  rw [validate_withSigningKey_eq_ok_iff]
  rw [← ofBlock_toBlock report, validate_eq_ok_iff] at hValid
  exact fun flaw _ => hValid flaw

/-- A report in which a key was named has that key.  The other 29 bits of its key word are the old
ones, and so are all bytes in front of the word and behind it.  A key that is named later wipes out
every trace of this one.  Validation finds the flaws that it found before, but for an unknown key,
so a report that was valid stays valid.  Which key a word has is written in its second to fourth
bit alone, and to name that key again changes nothing. -/
theorem withSigningKey_frame (report : Report) (key : SigningKey) :
    let named := report.withSigningKey key
    named.signingKey? = some key ∧
    (∀ bit, bit < 2 ∨ 5 ≤ bit →
      named.body.keyInfo.toNat.testBit bit = report.body.keyInfo.toNat.testBit bit) ∧
    named.toBlock.toList = report.toBlock.toList.take 72 ++
      ((Block.ofUInt32 named.body.keyInfo).toList ++ report.toBlock.toList.drop 76) ∧
    (∀ later, named.withSigningKey later = report.withSigningKey later) ∧
    ((named.validate = .ok () ↔
        ∀ flaw : ReportFlaw, flaw ≠ .unknownSigningKey → ¬ flaw.IsIn report.toBlock) ∧
      (report.validate = .ok () → named.validate = .ok ())) ∧
    ((report.signingKey? = some key ↔ ∀ bit < 3,
        report.body.keyInfo.toNat.testBit (bit + 2) = key.code.toNat.testBit bit) ∧
      (∀ other : Report, (∀ bit < 3, other.body.keyInfo.toNat.testBit (bit + 2) =
          report.body.keyInfo.toNat.testBit (bit + 2)) →
        other.signingKey? = report.signingKey?)) ∧
    (report.signingKey? = some key → named = report) := by
  intro named
  refine ⟨report.signingKey?_withSigningKey key, ?_, report.toList_toBlock_withSigningKey key,
    report.withSigningKey_withSigningKey key,
    ⟨report.validate_withSigningKey_eq_ok_iff key,
      fun hValid => validate_withSigningKey_of_ok hValid key⟩,
    ⟨report.signingKey?_eq_some_iff key, fun other => signingKey?_congr⟩,
    withSigningKey_of_named⟩
  intro bit hOutside
  rw [testBit_withSigningKey, if_neg (by omega)]

/-- In a word with all other bits set, one key takes the place of another and the bits stay set. -/
theorem withSigningKey_frame_of_full_word :
    let report : Report := { zero with body.keyInfo := 0xFFFFFFE7 }
    let bare : Report := { zero with body.keyInfo := 0x4 }
    let named := report.withSigningKey .none
    report.validate = .ok () ∧ report.signingKey? = some .vlek ∧
      named.validate = .ok () ∧ named.signingKey? = some .none ∧
      named.body.keyInfo.toNat.testBit 31 = true ∧
      report.withSigningKey .vlek = report ∧ bare.signingKey? = report.signingKey? := by
  intro report bare named
  have hBody : report.validateBody = .ok () := by decide
  have hSignature : report.signature.validate = .ok () := if_pos (Block.isZero_zero 368)
  have hValid : report.validate = .ok () := by rw [validate, hBody, hSignature]
  have hKey : report.signingKey? = some .vlek := by decide
  obtain ⟨hNamed, hBits, -, -, ⟨-, hStill⟩, -, -⟩ := withSigningKey_frame report .none
  obtain ⟨-, -, -, -, -, ⟨-, hAlike⟩, hAgain⟩ := withSigningKey_frame report .vlek
  refine ⟨hValid, hKey, hStill hValid, hNamed, ?_, hAgain hKey, hAlike bare (by decide)⟩
  rw [hBits 31 (by decide)]
  decide

end Report

end SnpGuest

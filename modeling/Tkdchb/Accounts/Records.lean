import Tkdchb.Lib.Digits
import Tkdchb.Lib.Table

/-!
# Records of the accounts application

Users, the profiles, clubs and boards that belong to them, and the applications that wait
for approval. A password is the text that was set; `authenticate` compares it exactly.

## Main definitions

* `User`, `UserProfile`, `TkdClub`, `PendingUserProfile`, `PendingClub` — the rows
* `AccountTables` — the tables
* `normalizeDigits`, `viewsNormalizeDigits` — digits in the forms and in the views
* `isMobile` — the check of a mobile number

## Main results

* `normalizeDigits_eq` — both normalisers are the same
-/

namespace Tkdchb.Accounts

/-- A row of `auth.User`. -/
structure User where
  username : String
  /-- `none` after `set_unusable_password` -/
  password : Option String
  isActive : Bool
  deriving DecidableEq, Repr

structure UserProfile where
  user : Option ℕ
  phone : String
  nationalCode : String
  role : String
  deriving DecidableEq, Repr

structure TkdClub where
  user : Option ℕ
  clubName : String
  city : String
  founderPhone : String
  founderNationalCode : String
  licenseNumber : String
  federationId : String
  deriving DecidableEq, Repr

structure TkdBoard where
  user : Option ℕ
  deriving DecidableEq, Repr

/-- An application of a player, a coach or a referee. -/
structure PendingUserProfile where
  phone : String
  nationalCode : String
  role : String
  deriving DecidableEq, Repr

structure PendingClub where
  clubName : String
  city : String
  founderPhone : String
  founderNationalCode : String
  phone : String
  licenseNumber : String
  federationId : String
  deriving DecidableEq, Repr

structure AccountTables where
  users : Table User
  profiles : Table UserProfile
  clubs : Table TkdClub
  boards : Table TkdBoard
  pendingProfiles : Table PendingUserProfile
  pendingClubs : Table PendingClub

/-- No accounts. -/
def noAccounts : AccountTables :=
  ⟨Table.empty, Table.empty, Table.empty, Table.empty, Table.empty, Table.empty⟩

/-- `user.profile` -/
def AccountTables.profileOf (t : AccountTables) (user : ℕ) : Option UserProfile :=
  (t.profiles.oldest fun p => p.user = some user).map Prod.snd

/-- `TkdClub.objects.filter(user=user).first()` -/
def AccountTables.clubOf (t : AccountTables) (user : ℕ) : Option TkdClub :=
  (t.clubs.oldest fun c => c.user = some user).map Prod.snd

/-- `TkdBoard.objects.filter(user=user).exists()` -/
def AccountTables.hasBoard (t : AccountTables) (user : ℕ) : Bool :=
  (t.boards.oldest fun b => b.user = some user).isSome

/-! ### Digits -/

/-- `FA_TO_EN_DIGITS`: the Persian and the Arabic digits. -/
def faToEnDigits : Digits.Scripts where
  zeros := [0x6f0, 0x660]
  notLatin := by decide
  apart := by decide

theorem notBlank_faToEnDigits : faToEnDigits.NotBlank := by decide +kernel

/-- `normalize_digits` of the serializers. -/
def normalizeDigits (s : String) : String := Text.strip (faToEnDigits.translate s)

/-- `_normalize_digits` of the views. -/
def viewsNormalizeDigits (s : String) : String := faToEnDigits.translate (Text.strip s)

/-- The table of `_fa2en`: the Persian digits only. -/
def faDigits : Digits.Scripts where
  zeros := [0x6f0]
  notLatin := by decide
  apart := by decide

theorem normalizeDigits_eq : normalizeDigits = viewsNormalizeDigits := by
  funext s
  exact Digits.Scripts.strip_translate notBlank_faToEnDigits s

/-- Latin digits only. -/
def LatinDigits (s : String) : Prop := ∀ c ∈ s.toList, c.isDigit = true

instance (s : String) : Decidable (LatinDigits s) :=
  decidable_of_iff (s.toList.all Char.isDigit = true) List.all_eq_true

section LatinDigits

variable {S : Digits.Scripts} {c : Char} {s : String}

theorem LatinDigits.translate (h : LatinDigits s) (S : Digits.Scripts) : S.translate s = s :=
  Digits.Scripts.translate_eq_self_iff.mpr fun c hc z hz hin => by
    have hlow := (Text.toNat_of_isDigit (h c hc)).2
    have hhigh := S.notLatin z hz
    have := hin.1
    omega

theorem LatinDigits.strip (h : LatinDigits s) : Text.strip s = s :=
  Text.strip_of_forall_not fun c hc => Text.isSpace_of_isDigit (h c hc)

theorem LatinDigits.normalizeDigits (h : LatinDigits s) : normalizeDigits s = s := by
  rw [Accounts.normalizeDigits, h.translate, h.strip]

/-- A text that is translated to Latin digits has no blanks. -/
theorem LatinDigits.strip_of_translate (hblank : S.NotBlank) (h : LatinDigits (S.translate s)) :
    Text.strip s = s := by
  refine Text.strip_of_forall_not fun c hc => ?_
  rw [← Digits.Scripts.isSpace_toLatin hblank c]
  apply Text.isSpace_of_isDigit
  apply h
  rw [Digits.Scripts.toList_translate]
  exact List.mem_map_of_mem hc

end LatinDigits

/-- `value.isdigit() and value.startswith("09") and len(value) == 11` -/
def isMobile (s : String) : Bool :=
  Text.allDigits s && "09".toList.isPrefixOf s.toList && s.toList.length == 11

/-- `value.isdigit() and len(value) == n` -/
def isNumberOf (n : ℕ) (s : String) : Bool := Text.allDigits s && s.toList.length == n

end Tkdchb.Accounts

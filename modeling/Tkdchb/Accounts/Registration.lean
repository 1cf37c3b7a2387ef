import Tkdchb.Accounts.Records

/-!
# Applications

What an applicant enters, and what the serializers store of it. The serializer of players
and the one of coaches and referees translate the digits of the phone and the national code.
The one of clubs does so with other fields, and stores the phone and the national code of
the founder as they were entered.

## Main definitions

* `PersonForm`, `pendingPersonSerializer` — players, coaches and referees
* `ClubForm`, `pendingClubSerializer` — clubs

## Main results

* `pendingPerson_stored`, `pendingClub_stored` — what is stored
-/

namespace Tkdchb.Accounts

/-- The fields of a player, a coach or a referee that the serializer compares. -/
structure PersonForm where
  phone : String
  nationalCode : String
  role : String
  /-- the checks of the other fields -/
  othersValid : Bool

structure ClubForm where
  clubName : String
  city : String
  founderPhone : String
  founderNationalCode : String
  phone : String
  licenseNumber : String
  federationId : String
  /-- the checks of the other fields -/
  othersValid : Bool

/-- `CharField(max_length=n)`: blanks are trimmed, and nothing may be left blank. -/
def charField (n : ℕ) (s : String) : Option String :=
  let s := Text.strip s
  if s = "" ∨ n < s.toList.length ∨ Char.ofNat 0 ∈ s.toList then none else some s

/-- `PendingPlayerSerializer` and `PendingCoachSerializer`, with
`DIGIT_FIELDS = ("national_code", "phone")`. -/
def pendingPersonSerializer (t : AccountTables) (form : PersonForm) :
    Option PendingUserProfile := do
  let code ← (charField 10 (normalizeDigits form.nationalCode)).map normalizeDigits
  let phone ← (charField 11 (normalizeDigits form.phone)).map normalizeDigits
  if isNumberOf 10 code = false then none
  else if (t.pendingProfiles.oldest fun p => p.nationalCode = code).isSome then none
  else if (t.profiles.oldest fun p => p.nationalCode = code).isSome then none
  else if isMobile phone = false then none
  else if (t.pendingProfiles.oldest fun p => p.phone = phone).isSome then none
  else if (t.profiles.oldest fun p => p.phone = phone).isSome then none
  else if form.othersValid = false then none
  else some ⟨phone, code, form.role⟩

/-- `validate_phone` of `PendingClubSerializer` -/
def isClubPhone (s : String) : Bool :=
  isNumberOf 11 s &&
    ("09".toList.isPrefixOf s.toList || "038".toList.isPrefixOf s.toList)

/-- `name__iexact` -/
def iexact (x y : String) : Bool := Text.lower x = Text.lower y

/-- `PendingClubSerializer.validate`: the name in the city, the licence and the federation's
number are new. -/
def newClub (t : AccountTables) (name city licence federation : String) : Bool :=
  let clashes (x y : String) : Bool := x ≠ "" && iexact y x
  let sameName (n c : String) : Bool := name ≠ "" && city ≠ "" && iexact n name && iexact c city
  (t.clubs.oldest fun c => sameName c.clubName c.city || clashes licence c.licenseNumber ||
    clashes federation c.federationId).isNone &&
  (t.pendingClubs.oldest fun c => sameName c.clubName c.city ||
    clashes licence c.licenseNumber || clashes federation c.federationId).isNone

/-- `PendingClubSerializer`, with `DIGIT_FIELDS = ("phone", "license_number",
"federation_id")`. -/
def pendingClubSerializer (t : AccountTables) (form : ClubForm) : Option PendingClub := do
  let clubName ← (charField 100 form.clubName).map Text.strip
  let city ← charField 100 form.city
  let founderPhone ← charField 11 form.founderPhone
  let founderNationalCode ← charField 10 form.founderNationalCode
  let phone ← (charField 11 (normalizeDigits form.phone)).map normalizeDigits
  let licenseNumber ← (charField 100 (normalizeDigits form.licenseNumber)).map normalizeDigits
  let federationId ← (charField 100 (normalizeDigits form.federationId)).map normalizeDigits
  if isClubPhone phone = false then none
  else if newClub t clubName (Text.strip city) licenseNumber federationId = false then none
  else if form.othersValid = false then none
  else
    some ⟨clubName, city, founderPhone, founderNationalCode, phone, licenseNumber, federationId⟩

section

variable {t : AccountTables} {s s' : String} {n : ℕ}

theorem charField_eq_some (h : charField n s = some s') : s' = Text.strip s := by
  unfold charField at h
  dsimp only at h
  split_ifs at h
  exact (Option.some.inj h).symm

/-- A field among `DIGIT_FIELDS` is stored in Latin digits. -/
theorem digitField_eq_some (h : (charField n (normalizeDigits s)).map normalizeDigits = some s')
    (hlatin : LatinDigits (normalizeDigits s)) : s' = normalizeDigits s := by
  obtain ⟨v, hv, rfl⟩ := Option.map_eq_some_iff.mp h
  rw [charField_eq_some hv, hlatin.strip, hlatin.normalizeDigits]

/-- **The phone and the national code of a person** are stored in Latin digits. -/
theorem pendingPerson_stored {form : PersonForm} {row : PendingUserProfile}
    (h : pendingPersonSerializer t form = some row)
    (hphone : LatinDigits (normalizeDigits form.phone))
    (hcode : LatinDigits (normalizeDigits form.nationalCode)) :
    row.phone = normalizeDigits form.phone ∧
      row.nationalCode = normalizeDigits form.nationalCode := by
  simp only [pendingPersonSerializer, Option.bind_eq_bind, Option.bind_eq_some_iff] at h
  obtain ⟨code, hcode', phone, hphone', h⟩ := h
  split_ifs at h
  obtain rfl := Option.some.inj h
  exact ⟨digitField_eq_some hphone' hphone, digitField_eq_some hcode' hcode⟩

/-- **The phone and the national code of a founder** are stored as they were entered. -/
theorem pendingClub_stored {form : ClubForm} {row : PendingClub}
    (h : pendingClubSerializer t form = some row) :
    row.founderPhone = Text.strip form.founderPhone ∧
      row.founderNationalCode = Text.strip form.founderNationalCode := by
  simp only [pendingClubSerializer, Option.bind_eq_bind, Option.bind_eq_some_iff] at h
  obtain ⟨clubName, -, city, -, founderPhone, hphone, founderNationalCode, hcode, phone, -,
    licenseNumber, -, federationId, -, h⟩ := h
  split_ifs at h
  obtain rfl := Option.some.inj h
  exact ⟨charField_eq_some hphone, charField_eq_some hcode⟩

end

end Tkdchb.Accounts

/-
Characters that change with case.

Which characters change in lower and in upper case is read off the mappings.  Title case
and folding differ from these by a few characters, which are listed.
-/
import NameLint.Unicode.Casing

namespace NameLint.Property

/-- The code points that a mapping changes. -/
def changedBy (texts : List (Nat × List Nat)) (runs : List CaseRun) : CharSet :=
  .ofRanges ((texts.map Prod.fst ++ runs.flatMap CaseRun.members).map fun n => (n, n))

/-- Characters that differ from their lower case. -/
def changesWhenLowercased : CharSet :=
  (changedBy Casing.lowerTexts Casing.lowerRuns).union (.range 0x41 0x5A)

/-- Characters that differ from their upper case. -/
def changesWhenUppercased : CharSet :=
  (changedBy Casing.upperTexts Casing.upperRuns).union (.range 0x61 0x7A)

/-- Characters that change in upper case but not in title case. -/
def titlecaseFixed : CharSet := .ofText
    "1C5 1C8 1CB 1F2 10D0-10FA 10FD-10FF 1F88-1F8F 1F98-1F9F 1FA8-1FAF 1FBC 1FCC 1FFC"

/-- Characters that differ from their title case. -/
def changesWhenTitlecased : CharSet :=
  (changesWhenUppercased.union (.ofText "1C4 1C7 1CA 1F1")).minus titlecaseFixed

/-- Characters that differ from any of the three. -/
def changesWhenCasemapped : CharSet :=
  .unions [changesWhenLowercased, changesWhenUppercased, changesWhenTitlecased]

/-- Characters that change in folding but not in lower case. -/
def onlyFolded : CharSet := .ofText
    "B5 DF 149 17F 345 3C2 3D0-3D1 3D5-3D6 3F0-3F1 3F5 587 13F8-13FD 1C80-1C88 1E9A-1E9B 1F80-1F87
    1F90-1F97 1FA0-1FA7 1FB2-1FB4 1FB7 1FC2-1FC4 1FC7 1FF2-1FF4 1FF7 AB70-ABBF FB00-FB06 FB13-FB17"

/-- Characters that differ from their folding. -/
def changesWhenCasefolded : CharSet :=
  (changesWhenLowercased.union onlyFolded).minus (.range 0x13A0 0x13F5)

end NameLint.Property

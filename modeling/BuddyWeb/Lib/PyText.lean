/-
The text operations of the source language and of its database.
-/
import BuddyWeb.Lib.Trim

namespace BuddyWeb

/-- The characters which `str.strip` removes: those `str.isspace` accepts. -/
def isPySpace (c : Char) : Bool :=
  let code := c.toNat
  (9 ≤ code && code ≤ 13) || (28 ≤ code && code ≤ 32) || code == 0x85 ||
    code == 0xA0 || code == 0x1680 || (0x2000 ≤ code && code ≤ 0x200A) ||
    code == 0x2028 || code == 0x2029 || code == 0x202F || code == 0x205F ||
    code == 0x3000

/-- `str.strip` without arguments. -/
def pyStrip (value : String) : String :=
  String.ofList (trimEnds isPySpace value.toList)

@[simp]
theorem pyStrip_pyStrip (value : String) :
    pyStrip (pyStrip value) = pyStrip value := by
  simp [pyStrip]

/-- `btrim` of the database removes spaces only. -/
def btrim (value : String) : String :=
  String.ofList (trimEnds (· = ' ') value.toList)

/-- Trimming spaces leaves a text as it is which trimming white space does. -/
theorem btrim_eq_self {text : String} (h : pyStrip text = text) : btrim text = text := by
  have htrim : trimEnds isPySpace text.toList = text.toList := by
    have htoList := congrArg String.toList h
    rwa [pyStrip, String.toList_ofList] at htoList
  obtain ⟨hhead, hlast⟩ := trimEnds_eq_self_iff.mp htrim
  have hspace : ∀ char : Char, ¬ isPySpace char = true → ¬ decide (char = ' ') = true := by
    intro char hchar hequal
    rw [of_decide_eq_true hequal] at hchar
    exact hchar (by decide)
  have hself : trimEnds (· = ' ') text.toList = text.toList :=
    trimEnds_eq_self_iff.mpr
      ⟨fun hne => hspace _ (hhead hne), fun hne => hspace _ (hlast hne)⟩
  rw [btrim, hself, String.ofList_toList]

example : pyStrip "\t Asia/Bangkok \n" = "Asia/Bangkok" := by decide

end BuddyWeb

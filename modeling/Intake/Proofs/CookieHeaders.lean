import Intake.Proofs.Query

/-!
# Written cookie headers

A client joins its cookies by a semicolon and a space, each with an equals sign between name and
value, and may put the value in double quotes.  What the header is read as are these cookies, as
long as no name or value has a character that the header gives a meaning of its own, in the place
where it has that meaning.  A value may well have an equals sign in it, white space or a quote.

Main results:

- {lit}`WrittenCookie` is a cookie with the form in which it is written, and
  {lit}`WrittenCookie.Plain` says which names and values keep clear of the signs of a header.
- Theorem {lit}`WrittenCookie.cookiePair?_eq_some`: a written cookie is read back, with any white
  space before it.
- Theorem {lit}`WrittenCookie.cookiePairs_header`: so are all cookies of a written header.
- Theorem {lit}`Request.addCookieHeader_header`: a written header adds just its cookies to a
  request, and a header can be cut at every semicolon.
-/

namespace Intake

theorem Text.stripBoth_of_bare {p : Char → Bool} {cs : List Char} (h : Bare p cs) :
    stripBoth p cs = cs := by
  have hstrip := stripBoth_append (List.forall_mem_nil _) h (List.forall_mem_nil _)
  rwa [List.nil_append, List.append_nil] at hstrip

/-! ## Cookies as they are written -/

/-- A cookie as a client writes it. -/
structure WrittenCookie where
  /-- The name. -/
  name : String
  /-- The value. -/
  value : String
  /-- Whether the value stands in double quotes. -/
  quoted : Bool

namespace WrittenCookie

/-- The name and the value. -/
def pair (c : WrittenCookie) : String × String :=
  (c.name, c.value)

/-- The text of a cookie. -/
def text (c : WrittenCookie) : String :=
  c.name ++ "=" ++ if c.quoted then "\x22" ++ c.value ++ "\x22" else c.value

/-- The text of a header with the cookies. -/
def header (cookies : List WrittenCookie) : String :=
  "; ".intercalate (cookies.map text)

/-- Name and value keep clear of the signs of a header. -/
structure Plain (c : WrittenCookie) : Prop where
  /-- The name has no sign that ends it. -/
  name_free : ';' ∉ c.name.toList ∧ '=' ∉ c.name.toList
  /-- There is no white space around the name. -/
  name_bare : Text.Bare Text.isBlank c.name.toList
  /-- The value has no sign that ends it. -/
  value_free : ';' ∉ c.value.toList
  /-- There is no white space around the value. -/
  value_bare : Text.Bare Text.isBlank c.value.toList
  /-- There is no double quote around the value. -/
  value_unquoted : Text.Bare (· = '\x22') c.value.toList

instance (c : WrittenCookie) : Decidable c.Plain :=
  decidable_of_iff
    ((';' ∉ c.name.toList ∧ '=' ∉ c.name.toList) ∧ Text.Bare Text.isBlank c.name.toList ∧
      ';' ∉ c.value.toList ∧ Text.Bare Text.isBlank c.value.toList ∧
      Text.Bare (· = '\x22') c.value.toList)
    ⟨fun ⟨h₁, h₂, h₃, h₄, h₅⟩ => ⟨h₁, h₂, h₃, h₄, h₅⟩,
      fun ⟨h₁, h₂, h₃, h₄, h₅⟩ => ⟨h₁, h₂, h₃, h₄, h₅⟩⟩

/-- The characters after the equals sign. -/
def valueChars (c : WrittenCookie) : List Char :=
  if c.quoted then '\x22' :: c.value.toList ++ ['\x22'] else c.value.toList

theorem toList_text (c : WrittenCookie) :
    c.text.toList = c.name.toList ++ '=' :: c.valueChars := by
  unfold text valueChars
  split <;> simp [String.toList_append]

/-- Trimming takes nothing off a written value, and taking off the quotes leaves the value. -/
theorem stripBoth_valueChars {c : WrittenCookie} (h : c.Plain) :
    Text.stripBoth (· = '\x22') (Text.trimChars c.valueChars) = c.value.toList := by
  unfold valueChars Text.trimChars
  split
  · have hbare : Text.Bare Text.isBlank ('\x22' :: c.value.toList ++ ['\x22']) := by
      constructor
      · rintro d hd
        cases hd
        decide
      · intro d hd
        rw [List.getLast?_concat] at hd
        cases hd
        decide
    have hquote : ∀ d ∈ ['\x22'], decide (d = '\x22') = true :=
      List.forall_mem_singleton.mpr (decide_eq_true rfl)
    rw [Text.stripBoth_of_bare hbare]
    exact Text.stripBoth_append hquote h.value_unquoted hquote
  · rw [Text.stripBoth_of_bare h.value_bare, Text.stripBoth_of_bare h.value_unquoted]

/-- A written cookie is read back, with any white space before it. -/
theorem cookiePair?_eq_some {c : WrittenCookie} (h : c.Plain) {before : List Char}
    (hbefore : ∀ d ∈ before, Text.isBlank d = true) :
    cookiePair? (before ++ c.text.toList) = some c.pair := by
  have hname : '=' ∉ before ++ c.name.toList := by
    rw [List.mem_append, not_or]
    exact ⟨fun hmem => absurd (hbefore _ hmem) (by decide), h.name_free.2⟩
  have htrim : Text.trimChars (before ++ c.name.toList) = c.name.toList := by
    have hstrip := Text.stripBoth_append hbefore h.name_bare (List.forall_mem_nil _)
    rwa [List.append_nil] at hstrip
  rw [toList_text, ← List.append_assoc, cookiePair?, Text.splitFirst?_append hname, Option.map_some]
  dsimp only
  rw [htrim, stripBoth_valueChars h, String.ofList_toList, String.ofList_toList, pair]

/-- A written cookie has no semicolon. -/
theorem semicolon_not_mem_text {c : WrittenCookie} (h : c.Plain) : ';' ∉ c.text.toList := by
  have hvalue : ';' ∉ c.valueChars := by
    unfold valueChars
    split <;> simp [h.value_free]
  rw [toList_text, List.mem_append, List.mem_cons, not_or, not_or]
  exact ⟨h.name_free.1, by decide, hvalue⟩

/-! ## Headers -/

theorem header_cons_cons (c c' : WrittenCookie) (rest : List WrittenCookie) :
    (header (c :: c' :: rest)).toList =
      c.text.toList ++ ';' :: ([' '] ++ (header (c' :: rest)).toList) := by
  simp [header, String.toList_intercalate]

/-- The cookies of a written header are read back, with any white space before it. -/
theorem cookiePairs_header {cookies : List WrittenCookie} (h : ∀ c ∈ cookies, c.Plain)
    {before : List Char} (hbefore : ∀ d ∈ before, Text.isBlank d = true) :
    cookiePairs (before ++ (header cookies).toList) = cookies.map pair := by
  have hsemicolon : ';' ∉ before := fun hmem => absurd (hbefore _ hmem) (by decide)
  -- The space that follows a semicolon is the white space before the rest of the header.
  induction cookies generalizing before with
  | nil =>
      have hequals : '=' ∉ before := fun hmem => absurd (hbefore _ hmem) (by decide)
      have hnone : cookiePair? before = none := by
        rw [cookiePair?, Text.splitFirst?_eq_none.mpr hequals, Option.map_none]
      have hempty : (header []).toList = [] := rfl
      rw [hempty, List.append_nil, cookiePairs, Text.splitAll_of_not_mem hsemicolon,
        List.filterMap_cons_none hnone, List.filterMap_nil, List.map_nil]
  | cons c rest ih =>
      obtain ⟨hc, hrest⟩ := List.forall_mem_cons.mp h
      have hpiece : cookiePairs (before ++ c.text.toList) = [c.pair] := by
        have hfree : ';' ∉ before ++ c.text.toList := by
          rw [List.mem_append, not_or]
          exact ⟨hsemicolon, semicolon_not_mem_text hc⟩
        rw [cookiePairs, Text.splitAll_of_not_mem hfree,
          List.filterMap_cons_some (cookiePair?_eq_some hc hbefore), List.filterMap_nil]
      cases rest with
      | nil =>
          have hsingle : header [c] = c.text := String.intercalate_singleton
          rw [hsingle, hpiece, List.map_cons, List.map_nil]
      | cons c' rest =>
          have hspace : ∀ d ∈ [' '], Text.isBlank d = true :=
            List.forall_mem_singleton.mpr (by decide)
          rw [header_cons_cons, ← List.append_assoc, cookiePairs_append, hpiece,
            ih hrest hspace (by decide), List.map_cons (a := c)]
          rfl

end WrittenCookie

namespace Request

/-- A header of two parts adds the cookies of the first part and then those of the second one. -/
theorem addCookieHeader_append (r : Request) (first second : String) :
    r.addCookieHeader (first ++ ";" ++ second) =
      (r.addCookieHeader first).addCookieHeader second := by
  have hchars : (first ++ ";" ++ second).toList = first.toList ++ ';' :: second.toList := by
    simp [String.toList_append]
  simp only [addCookieHeader, hchars, cookiePairs_append, List.append_assoc]

/-- A header that is written of plain cookies adds just these, in order, whether their values are
in quotes or not; and a header may be cut at a semicolon, whatever the two parts are. -/
theorem addCookieHeader_header {cookies : List WrittenCookie} (h : ∀ c ∈ cookies, c.Plain)
    (r : Request) :
    r.addCookieHeader (WrittenCookie.header cookies) =
        { r with cookies := r.cookies ++ cookies.map WrittenCookie.pair } ∧
      ∀ first second, r.addCookieHeader (first ++ ";" ++ second) =
        (r.addCookieHeader first).addCookieHeader second := by
  refine ⟨?_, r.addCookieHeader_append⟩
  have hpairs := WrittenCookie.cookiePairs_header h (List.forall_mem_nil _)
  rw [List.nil_append] at hpairs
  rw [addCookieHeader, hpairs]

/-- Cookies with signs of a header in places where they have no meaning, and one without any
character. -/
def preferences : List WrittenCookie :=
  [⟨"session", "a=b", false⟩, ⟨"my theme", "dark \x22er=\x22 blue", true⟩, ⟨"", "", false⟩]

theorem preferences_addCookieHeader_header :
    (∀ c ∈ preferences, c.Plain) ∧
      ({} : Request).addCookieHeader "session=a=b; my theme=\x22dark \x22er=\x22 blue\x22; =" =
        { cookies := [("session", "a=b"), ("my theme", "dark \x22er=\x22 blue"), ("", "")] } := by
  have hplain : ∀ c ∈ preferences, c.Plain := by decide
  have htext : "session=a=b; my theme=\x22dark \x22er=\x22 blue\x22; =" =
      WrittenCookie.header preferences := by
    decide
  rw [htext]
  exact ⟨hplain, (addCookieHeader_header hplain {}).1⟩

end Request

end Intake

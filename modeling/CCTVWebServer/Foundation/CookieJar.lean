import CCTVWebServer.Foundation.Http

/-!
# Cookies as a browser keeps them

A `Set-Cookie` field names a cookie, gives it a value, and has attributes behind semicolons.
The jar keeps the newest value of each name, in the order in which the names came first. A
cookie whose attributes say that it has ended is taken out; which attributes say so is a
parameter, since a browser reads a clock for it.
-/

namespace Foundation.Http

abbrev semicolon : UInt8 := 0x3B
abbrev equalsSign : UInt8 := 0x3D

/-- An attribute of a cookie: a name, and a value that may be empty. -/
abbrev Attribute := List UInt8 × List UInt8

structure SetCookie where
  cookie : Field
  attributes : List Attribute

/-- What stands before and behind the first `=`, without the blanks around it. -/
def readPair (text : List UInt8) : Attribute :=
  (trim (text.takeWhile (· ≠ equalsSign)), trim (text.dropWhile (· ≠ equalsSign)).tail)

def readSetCookie (text : List UInt8) : Option SetCookie :=
  match text.splitOn semicolon with
  | [] => none
  | pair :: attributes =>
    if equalsSign ∈ pair ∧ (readPair pair).1 ≠ [] then
      some ⟨⟨(readPair pair).1, (readPair pair).2⟩, attributes.map readPair⟩
    else none

/-- The cookies of a site. -/
abbrev Jar := List Field

def Jar.store (ended : List Attribute → Bool) (jar : Jar) (c : SetCookie) : Jar :=
  if ended c.attributes then jar.filter (·.name ≠ c.cookie.name)
  else if jar.any (·.name = c.cookie.name) then
    jar.map fun f => if f.name = c.cookie.name then c.cookie else f
  else jar ++ [c.cookie]

/-- The jar after a response. -/
def Jar.receive (ended : List Attribute → Bool) (jar : Jar) (r : Response) : Jar :=
  (values "Set-Cookie" r.fields).foldl
    (fun jar text =>
      match readSetCookie text with
      | some c => jar.store ended c
      | none => jar) jar

/-- A jar with some cookies, and at most one more of a name. -/
def Jar.withCookie (others : Jar) (name : List UInt8) (value : Option (List UInt8)) : Jar :=
  others ++ value.toList.map fun v => ⟨name, v⟩

variable {others : Jar} {c : SetCookie}

/-- A cookie comes into the place of its predecessor, and the others stay. -/
theorem store_withCookie (ended : List Attribute → Bool)
    (hothers : ∀ f ∈ others, f.name ≠ c.cookie.name) (value : Option (List UInt8)) :
    (others.withCookie c.cookie.name value).store ended c =
      others.withCookie c.cookie.name
        (if ended c.attributes then none else some c.cookie.value) := by
  have hmap : others.map (fun f => if f.name = c.cookie.name then c.cookie else f) = others := by
    refine (List.map_congr_left fun f hf => ?_).trans (List.map_id others)
    rw [if_neg (hothers f hf), id]
  have hany : others.any (·.name = c.cookie.name) = false :=
    List.any_eq_false.mpr fun f hf => by simpa using hothers f hf
  by_cases hended : ended c.attributes = true
  · cases value with
    | none => simpa [Jar.store, Jar.withCookie, hended] using hothers
    | some v => simpa [Jar.store, Jar.withCookie, hended, List.filter_append] using hothers
  · cases value with
    | none => simp [Jar.store, Jar.withCookie, hended, hany]
    | some v => simp [Jar.store, Jar.withCookie, hended, List.map_append, hmap]

/-- A cookie with attributes is read as it was written. -/
theorem readSetCookie_text {f : Field} (hname : IsToken f.name) (hsemicolon : semicolon ∉ f.value)
    (hhead : ∀ b ∈ f.value.head?, ¬ IsBlank b) (hlast : ∀ b ∈ f.value.getLast?, ¬ IsBlank b)
    (attributes : List UInt8) :
    readSetCookie (f.name ++ equalsSign :: f.value ++ semicolon :: attributes) =
      some ⟨f, (attributes.splitOn semicolon).map readPair⟩ := by
  have hpair : semicolon ∉ f.name ++ equalsSign :: f.value := by
    have hno : semicolon ∉ f.name := hname.not_mem (by decide)
    have hne : semicolon ≠ equalsSign := by decide
    simp [hno, hne, hsemicolon]
  have hends : ∀ b ∈ f.name, decide (b ≠ equalsSign) = true := by
    intro b hb
    rw [decide_eq_true_eq]
    rintro rfl
    exact hname.not_mem (by decide) hb
  have htake : (f.name ++ equalsSign :: f.value).takeWhile (· ≠ equalsSign) = f.name := by
    rw [List.takeWhile_append_of_pos hends]
    simp
  have hdrop : (f.name ++ equalsSign :: f.value).dropWhile (· ≠ equalsSign) =
      equalsSign :: f.value := by
    rw [List.dropWhile_append_of_pos hends]
    simp
  have hblank : ∀ b ∈ f.name, ¬ IsBlank b := by
    rintro b hb (rfl | rfl)
    · exact hname.not_mem (by decide) hb
    · exact hname.not_mem (by decide) hb
  have htrim : trim f.name = f.name :=
    trim_eq (fun b hb => hblank b (List.mem_of_mem_head? hb))
      fun b hb => hblank b (List.mem_of_mem_getLast? hb)
  have hread : readPair (f.name ++ equalsSign :: f.value) = (f.name, f.value) := by
    rw [readPair, htake, hdrop, List.tail_cons, htrim, trim_eq hhead hlast]
  have hmem : equalsSign ∈ f.name ++ equalsSign :: f.value := by simp
  rw [readSetCookie, List.splitOn_append_cons_self_of_not_mem hpair]
  simp only [hread, hmem, hname.1, ne_eq, not_false_eq_true, and_self, if_true]

end Foundation.Http

import BeanContainer.Source.Forest

/-!
# Forests without invisible brackets

A reader who does not look for invisible brackets passes through them. What is in front of such a
reader is the first tree of the forest with these brackets open, and behind that tree is the rest of
the same forest. At the end the reader is only if no bracket is left.
-/

namespace BeanContainer.Source.Forest

variable {forest found content rest behind : Forest} {token : Token} {delimiter : Delimiter}

/-- Whether the forest starts with a tree that is no invisible group. -/
def startsBare : Forest → Bool
  | nil | group .invisible _ _ => false
  | _ => true

theorem startsBare_append : ∀ {forest : Forest} (other : Forest),
    forest.startsBare = true → (forest ++ other).startsBare = true
  | leaf .., _, _ => rfl
  | group .parentheses .., _, _ => rfl
  | group .brackets .., _, _ => rfl
  | group .braces .., _, _ => rfl
  | tagged .., _, _ => rfl
  | expression .., _, _ => rfl

theorem startsBare_of_bare? (isFound : forest.bare? = some found) : found.startsBare = true := by
  induction forest using bare?.induct generalizing found with
  | case1 => simp [bare?] at isFound
  | case2 content rest inner isInner ihContent =>
      simp only [bare?, isInner, Option.some.injEq] at isFound
      rw [← isFound]
      exact startsBare_append rest (ihContent isInner)
  | case3 content rest isBlank ihContent ihRest =>
      simp only [bare?, isBlank] at isFound
      exact ihRest isFound
  | case4 other notNil notInvisible =>
      rw [bare?] at isFound
      · cases isFound
        cases other with
        | nil => exact absurd rfl notNil
        | group delimiter content rest =>
            cases delimiter with
            | invisible => exact absurd rfl (notInvisible content rest)
            | parentheses | brackets | braces => rfl
        | leaf | tagged | expression => rfl
      · exact notNil
      · exact notInvisible

theorem bare?_eq_none_iff : forest.bare? = none ↔ forest.isBlank = true := by
  induction forest using bare?.induct with
  | case1 => simp [bare?, isBlank]
  | case2 content rest inner isInner ihContent =>
      simp only [isInner, reduceCtorEq, false_iff, Bool.not_eq_true] at ihContent
      simp [bare?, isBlank, isInner, ihContent]
  | case3 content rest isNone ihContent ihRest =>
      simp only [isNone, true_iff] at ihContent
      simp [bare?, isBlank, isNone, ihContent, ihRest]
  | case4 other notNil notInvisible =>
      rw [bare?]
      · cases other with
        | nil => exact absurd rfl notNil
        | group delimiter content rest =>
            cases delimiter with
            | invisible => exact absurd rfl (notInvisible content rest)
            | parentheses | brackets | braces => simp [isBlank]
        | leaf | tagged | expression => simp [isBlank]
      · exact notNil
      · exact notInvisible

@[simp] theorem startsBare_group :
    (group delimiter content rest).startsBare = true ↔ delimiter ≠ .invisible := by
  cases delimiter <;> simp [startsBare]

theorem isBlank_group (notInvisible : delimiter ≠ .invisible) :
    (group delimiter content rest).isBlank = false := by
  cases delimiter with
  | invisible => exact absurd rfl notInvisible
  | parentheses | brackets | braces => rfl

theorem opened_group (notInvisible : delimiter ≠ .invisible) :
    (group delimiter content rest).opened = group delimiter content rest.opened := by
  cases delimiter with
  | invisible => exact absurd rfl notInvisible
  | parentheses | brackets | braces => rfl

theorem openOnto_eq_nil_iff : forest.openOnto behind = nil ↔ forest = nil ∧ behind = nil := by
  fun_cases openOnto forest behind with
  | case1 => simp
  | case4 content rest =>
      simp only [reduceCtorEq, false_and, iff_false]
      assumption
  | _ => simp

theorem openOnto_append : ∀ first second behind : Forest,
    (first ++ second).openOnto behind = first.openOnto (second.openOnto behind)
  | nil, _, _ => rfl
  | leaf token rest, second, behind => congrArg (leaf token) (openOnto_append rest second behind)
  | group .invisible content rest, second, behind => by
    simp only [group_append, openOnto, openOnto_append rest second behind]
  | group .parentheses content rest, second, behind =>
    congrArg (group .parentheses content) (openOnto_append rest second behind)
  | group .brackets content rest, second, behind =>
    congrArg (group .brackets content) (openOnto_append rest second behind)
  | group .braces content rest, second, behind =>
    congrArg (group .braces content) (openOnto_append rest second behind)
  | tagged name content rest, second, behind =>
    congrArg (tagged name content) (openOnto_append rest second behind)
  | expression place inner rest, second, behind =>
    congrArg (expression place inner) (openOnto_append rest second behind)

/-- The brackets of an invisible group leave no trace in front of something. -/
theorem openOnto_invisible (notNil : content.openOnto (rest.openOnto behind) ≠ nil) :
    (group .invisible content rest).openOnto behind = content.openOnto (rest.openOnto behind) := by
  rw [openOnto]
  split
  · rename_i isNil
    exact absurd isNil notNil
  · rfl

theorem openOnto_of_isBlank (isBlank : forest.isBlank = true) (notNil : behind ≠ nil) :
    forest.openOnto behind = behind := by
  fun_induction Forest.isBlank forest generalizing behind with
  | case1 => rfl
  | case2 content rest ihContent ihRest =>
      rw [Bool.and_eq_true] at isBlank
      have opens : content.openOnto (rest.openOnto behind) = behind := by
        rw [ihRest isBlank.2 notNil, ihContent isBlank.1 notNil]
      rw [openOnto_invisible (by rwa [opens]), opens]
  | case3 => cases isBlank

theorem ne_nil_of_startsBare (startsBare : forest.startsBare = true) : forest ≠ nil := by
  rintro rfl
  cases startsBare

/-- To open a forest it may first be made bare. -/
theorem openOnto_of_bare? (isFound : forest.bare? = some found) :
    forest.openOnto behind = found.openOnto behind := by
  have notNil : found.openOnto behind ≠ nil := by
    intro isNil
    exact ne_nil_of_startsBare (startsBare_of_bare? isFound) (openOnto_eq_nil_iff.mp isNil).1
  fun_induction bare? forest generalizing found behind with
  | case1 => cases isFound
  | case2 content rest inner isInner ihContent =>
      cases isFound
      rw [openOnto_append] at notNil ⊢
      have opens := ihContent isInner notNil
      rw [openOnto_invisible (by rwa [opens]), opens]
  | case3 content rest isNone ihContent ihRest =>
      have opens : content.openOnto (rest.openOnto behind) = found.openOnto behind := by
        rw [ihRest isFound notNil, openOnto_of_isBlank (bare?_eq_none_iff.mp isNone) notNil]
      rw [openOnto_invisible (by rwa [opens]), opens]
  | case4 => cases isFound; rfl

/-- A blank forest leaves nothing, or the one pair of brackets that says that it is not empty. -/
theorem opened_of_isBlank (isBlank : forest.isBlank = true) :
    forest.opened = nil ∨ forest.opened = group .invisible nil nil := by
  unfold opened
  fun_induction Forest.isBlank forest with
  | case1 => exact .inl rfl
  | case2 content rest ihContent ihRest =>
      right
      rw [Bool.and_eq_true] at isBlank
      rw [openOnto]
      rcases ihRest isBlank.2 with isNil | isPair
      · rcases ihContent isBlank.1 with isEmpty | isPair
        · rw [isNil, isEmpty]
        · rw [isNil, isPair]
      · rw [isPair, openOnto_of_isBlank isBlank.1 (by simp)]
  | case3 => cases isBlank

theorem opened_eq_nil_iff : forest.opened = nil ↔ forest = nil := by
  simp [opened, openOnto_eq_nil_iff]

theorem bare?_of_not_isBlank (notBlank : forest.isBlank = false) :
    forest.bare? = some forest.bare := by
  cases isFound : forest.bare? with
  | none => simp [bare?_eq_none_iff.mp isFound] at notBlank
  | some found => simp [bare, isFound]

theorem isBlank_eq_false_of_bare (notNil : forest.bare ≠ nil) : forest.isBlank = false := by
  rw [← Bool.not_eq_true, ← bare?_eq_none_iff]
  intro isNone
  simp [bare, isNone] at notNil

theorem startsBare_bare (notBlank : forest.isBlank = false) : forest.bare.startsBare = true :=
  startsBare_of_bare? (bare?_of_not_isBlank notBlank)

theorem opened_bare (notBlank : forest.isBlank = false) : forest.bare.opened = forest.opened :=
  (openOnto_of_bare? (bare?_of_not_isBlank notBlank)).symm

theorem opened_of_bare_leaf (isNext : forest.bare = leaf token rest) :
    forest.opened = leaf token rest.opened := by
  rw [← opened_bare (isBlank_eq_false_of_bare (by simp [isNext])), isNext]
  rfl

theorem opened_of_bare_group (isNext : forest.bare = group delimiter content rest) :
    forest.opened = group delimiter content rest.opened := by
  have notBlank : forest.isBlank = false := isBlank_eq_false_of_bare (by simp [isNext])
  have startsBare := startsBare_bare notBlank
  rw [isNext, startsBare_group] at startsBare
  rw [← opened_bare notBlank, isNext, opened_group startsBare]

theorem isBlank_opened : forest.opened.isBlank = forest.isBlank := by
  cases isBlank : forest.isBlank with
  | true => rcases opened_of_isBlank isBlank with isNil | isPair <;> simp [*, Forest.isBlank]
  | false =>
      have startsBare := startsBare_bare isBlank
      rw [← opened_bare isBlank]
      cases isNext : forest.bare with
      | nil => simp [isNext, Forest.startsBare] at startsBare
      | group delimiter content rest =>
          rw [isNext, startsBare_group] at startsBare
          rw [opened_group startsBare, isBlank_group startsBare]
      | leaf | tagged | expression => rfl

theorem bare_of_opened_leaf (isNext : forest.opened = leaf token behind) :
    ∃ rest, forest.bare = leaf token rest ∧ rest.opened = behind := by
  have notBlank : forest.isBlank = false := by
    rw [← isBlank_opened, isNext]
    rfl
  have startsBare := startsBare_bare notBlank
  rw [← opened_bare notBlank] at isNext
  cases isBare : forest.bare with
  | leaf first rest =>
      rw [isBare] at isNext
      cases isNext
      exact ⟨rest, rfl, rfl⟩
  | group first inner rest =>
      rw [isBare, startsBare_group] at startsBare
      simp [isBare, opened_group startsBare] at isNext
  | nil | tagged | expression => simp [isBare, opened, openOnto] at isNext

theorem bare_of_opened_group (notInvisible : delimiter ≠ .invisible)
    (isNext : forest.opened = group delimiter content behind) :
    ∃ rest, forest.bare = group delimiter content rest ∧ rest.opened = behind := by
  have notBlank : forest.isBlank = false := by
    rw [← isBlank_opened, isNext, isBlank_group notInvisible]
  have startsBare := startsBare_bare notBlank
  rw [← opened_bare notBlank] at isNext
  cases isBare : forest.bare with
  | group first inner rest =>
      rw [isBare, startsBare_group] at startsBare
      rw [isBare, opened_group startsBare] at isNext
      cases isNext
      exact ⟨rest, rfl, rfl⟩
  | nil | leaf | tagged | expression => simp [isBare, opened, openOnto] at isNext

end BeanContainer.Source.Forest

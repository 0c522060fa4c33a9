import Entitlements.Proofs.Pattern.Places

/-!
# Limits of patterns

A text that is to be a pattern goes beyond a limit only where it shows what asks for too much.
Every part of a pattern keeps the reader at a place of the text, and a limit is found to be gone
beyond right after what asks for too much. Groups are the parts that stand inside one another: the
depth that is left for a group is what the parentheses read before it have left over.
-/

namespace Entitlements.Pattern

open Reading

variable {text last : List Char} {n : Nat}

/-! ### Flags -/

/-- What flags are set stands in the text. -/
def FlagSetting.StandsIn (text : List Char) : FlagSetting → Prop
  | .whole on => ∀ c ∈ on, SetsFlag text c
  | .group _ _ => True

theorem turnOn_ensures {r : Reader} {on : List Char} {c : Char} {ok : List Char → Reader → Prop}
    (hok : ok (c :: on) r) : (turnOn on c).Ensures r ok (Flaw.ShownIn text) := by
  unfold turnOn
  by_cases hlocal : (c == 'L') = true
  · rw [if_pos hlocal]
    trivial
  · rw [if_neg hlocal]
    split
    · trivial
    · exact hok

/-- The letters of flags are those that stand between the question mark and a mark. -/
theorem flagsOn_ensures (fuel : Nat) {r : Reader} {on : List Char} {c : Char}
    {ok : List Char × Char → Reader → Prop} (hletters : ∀ d ∈ c :: on, d ∈ flagLetters)
    (hr : r.At text ('(' :: '?' :: (c :: on).reverse) n)
    (hok : ∀ on' mark r', (∀ d ∈ on', d ∈ flagLetters) →
      r'.At text ('(' :: '?' :: on'.reverse ++ [mark]) n → ok (on', mark) r') :
    (flagsOn fuel on c).Ensures r ok (Flaw.ShownIn text) := by
  induction fuel generalizing r on c with
  | zero => trivial
  | succ fuel ih =>
    rw [flagsOn, ensures_bind]
    refine turnOn_ensures ?_
    rw [ensures_bind]
    refine takeSome_ensures hr fun t r' hr' => ?_
    cases t with
    | plain d =>
      dsimp only
      split
      · exact hok _ _ _ hletters hr'
      · split
        next hd =>
          refine ih (List.forall_mem_cons.mpr ⟨List.contains_iff_mem.mp hd, hletters⟩) ?_
          rwa [List.reverse_cons]
        next => trivial
    | escaped d => trivial
    | dangling => trivial

theorem flagsOff_keeps (fuel : Nat) (off : List Char) :
    (flagsOff fuel off).Keeps text last n := by
  induction fuel generalizing off last with
  | zero => exact .malformed
  | succ fuel ih =>
    refine .bind .takeSome fun t _ => ?_
    cases t with
    | plain d =>
      exact .ite (fun _ => .pure trivial) fun _ => .ite (fun _ => ih _) fun _ => .malformed
    | escaped d => exact .malformed
    | dangling => exact .malformed

theorem flags_keeps {c : Char} (hc : c ∈ flagLetters ∨ c = '-') :
    (flags c).Keeps text ['(', '?', c] n (·.StandsIn text) := by
  -- what comes after the flags that are turned on and their mark
  have hend (m : Nat) (on : List Char) (mark : Char) {last : List Char}
      (hwhole : mark = ')' → ∀ d ∈ on, SetsFlag text d) : Keeps text last n (do
        if mark == ')' then return .whole on
        if on.contains templateLetter then malformed
        let off ← if mark == '-' then flagsOff (m + 1) [] else pure []
        if off.contains templateLetter || on.any off.contains then malformed
        return FlagSetting.group on off) (·.StandsIn text) := by
    refine .ite (fun hmark => .pure (hwhole (beq_iff_eq.mp hmark))) fun _ => .otherwise fun _ => ?_
    refine .ite (fun _ => ?_) fun _ => ?_
    · exact .bind (flagsOff_keeps _ _) fun off _ => .otherwise fun _ => .pure trivial
    · exact .otherwise fun _ => .pure trivial
  refine .left_bind fun m => .ite (fun _ => hend m [] c fun _ => nofun) fun hhyphen r hr => ?_
  have hletter : ∀ d ∈ [c], d ∈ flagLetters :=
    List.forall_mem_singleton.mpr (hc.resolve_right fun h => hhyphen (beq_iff_eq.mpr h))
  rw [ensures_bind]
  refine flagsOn_ensures (m + 1) hletter hr fun on mark r' hletters hr' => ?_
  refine hend m on mark ?_ r' hr'
  rintro rfl d hd
  exact ⟨on.reverse, fun e he => hletters e (List.mem_reverse.mp he), List.mem_reverse.mpr hd,
    hr'.infix⟩

/-! ### Escapes -/

/-- A code is that of the digits right after a place. -/
theorem hexCode_keeps (width : Nat) :
    (hexCode width).Keeps text last n fun code => ∃ ds, (∀ c ∈ ds, isHex c = true) ∧
      ds.length = width ∧ last ++ ds <:+: text ∧ code = valueOf 16 ds := by
  refine .takeWhile_bind fun ds hlength hds => .otherwise fun hshort r hr => ⟨?_, hr.anywhere⟩
  exact ⟨ds, hds, Nat.le_antisymm hlength (Nat.le_of_not_lt hshort), hr.infix, rfl⟩

theorem longEscape?_keeps (c : Char) : (longEscape? c).Keeps text ['\\', c] n := by
  unfold longEscape?
  split
  · exact .bind (hexCode_keeps 2) fun _ _ => .pure trivial
  · exact .bind (hexCode_keeps 4) fun _ _ => .pure trivial
  · refine .bind (hexCode_keeps 8) ?_
    rintro code ⟨ds, hds, hlength, hinfix, rfl⟩
    refine .ite (fun hlarge => ?_) fun _ => .otherwise fun _ => .pure trivial
    exact .beyond_bind _ (.inr ⟨ds, ⟨hds, hlength, hinfix⟩, hlarge⟩)
  · refine .bind (.expect _) fun _ _ => .bind (.name _) fun cs _ => ?_
    split
    · exact .pure trivial
    · exact .malformed
  · exact .pure trivial

theorem octalCode_keeps (cs : List Char) : (octalCode cs).Keeps text last n :=
  .otherwise fun _ => .pure trivial

theorem selfEscape_keeps (c : Char) : (selfEscape c).Keeps text last n :=
  .otherwise fun _ => .pure trivial

theorem memberEscape_keeps (c : Char) : (memberEscape c).Keeps text ['\\', c] n := by
  unfold memberEscape
  split
  · exact .pure trivial
  · refine .ite (fun _ => .pure trivial) fun _ => .bind (longEscape?_keeps c) fun n? _ => ?_
    cases n? with
    | some m => exact .pure trivial
    | none =>
      refine .ite (fun _ => ?_) fun _ => .ite (fun _ => .malformed) fun _ => ?_
      · exact .bind (.takeWhile _ _) fun _ _ => .bind (octalCode_keeps _) fun _ _ => .pure trivial
      · exact .bind (selfEscape_keeps c) fun _ _ => .pure trivial

theorem digitEscape_keeps (c : Char) : (digitEscape c).Keeps text last n := by
  have hend (cs third : List Char) : Keeps text [] n (do
      if third.isEmpty then return .group (← reference (valueOf 10 cs))
      else return Escape.char (← octalCode (cs ++ third))) := by
    refine .ite (fun _ => ?_) fun _ => ?_
    · exact .bind (.reference _) fun _ _ => .pure trivial
    · exact .bind (octalCode_keeps _) fun _ _ => .pure trivial
  refine .bind (.takeWhile _ _) fun second _ => .ite (fun _ => ?_) fun _ => ?_
  · exact .bind (.takeWhile _ _) fun third _ => hend _ third
  · exact hend _ []

theorem escape_keeps (c : Char) : (escape c).Keeps text ['\\', c] n := by
  refine .ite (fun _ => .pure trivial) fun _ => .ite (fun _ => .pure trivial) fun _ => ?_
  split
  · exact .pure trivial
  · refine .bind (longEscape?_keeps c) fun n? _ => ?_
    cases n? with
    | some m => exact .pure trivial
    | none =>
      refine .ite (fun _ => ?_) fun _ => .ite (fun _ => digitEscape_keeps c) fun _ => ?_
      · exact .bind (.takeWhile _ _) fun _ _ => .pure trivial
      · exact .bind (selfEscape_keeps c) fun _ _ => .pure trivial

/-! ### Classes -/

theorem member_keeps (t : Token) : (member t).Keeps text t.chars n := by
  cases t with
  | plain c => exact .pure trivial
  | escaped c => exact memberEscape_keeps c
  | dangling => exact .malformed

theorem range_keeps (low high : Escape) : (range low high).Keeps text last n := by
  unfold range
  split
  · exact .ite (fun _ => .malformed) fun _ => .pure trivial
  · exact .malformed

theorem members_keeps (empty : Bool) (fuel : Nat) : (members empty fuel).Keeps text [] n := by
  induction fuel generalizing empty with
  | zero => exact .malformed
  | succ fuel ih =>
    refine .takeSome_bind fun t => .ite (fun _ => .pure trivial) fun _ => ?_
    refine .bind (member_keeps t) fun low _ => .bind (.accept _) fun ranged _ => ?_
    refine .ite (fun _ => ?_) fun _ => ih false
    refine .takeSome_bind fun t => .ite (fun _ => .pure trivial) fun _ => ?_
    exact .bind (member_keeps t) fun high _ => .bind (range_keeps low high) fun _ _ => ih false

theorem charClass_keeps : charClass.Keeps text last n :=
  .bind (.accept _) fun _ _ => .bind .left fun _ _ => members_keeps true _

/-! ### Repetitions -/

theorem bound_keeps {digits : List Char} (h : IsBound text digits) :
    (bound digits).Keeps text last n := by
  refine .ite (fun _ => .pure trivial) fun _ => ?_
  refine .ite (fun hmany => .beyond_bind _ ⟨digits, h, hmany⟩) fun _ => ?_
  exact .ite (fun hlarge => .beyond_bind _ (.inl ⟨digits, h, hlarge⟩)) fun _ => .pure trivial

theorem bounds_keeps {low high : List Char} (hlow : IsBound text low) (hhigh : IsBound text high) :
    (bounds low high).Keeps text last n :=
  .bind (bound_keeps hlow) fun _ _ => .bind (bound_keeps hhigh) fun _ _ =>
    .otherwise fun _ => .pure trivial

theorem braces_keeps : braces.Keeps text ['\x7b'] n := by
  intro here hhere
  -- the closing brace makes bounds of the digits before it
  have hend {low high before : List Char}
      (hbounds : before ++ ['\x7d'] <:+: text → IsBound text low ∧ IsBound text high) :
      Keeps text before n (do
        if ← accept '\x7d' then return some (← bounds low high)
        else
          set here
          return none) := by
    refine .accept_bind (fun r hr => ?_) fun r hr => ?_
    · exact ⟨trivial, hhere.anywhere⟩
    · obtain ⟨hlow, hhigh⟩ := hbounds hr.infix
      exact Keeps.bind (bounds_keeps hlow hhigh) (fun _ _ => .pure trivial) r hr
  unfold braces
  rw [ensures_bind, ensures_peek]
  split
  · exact ⟨trivial, hhere.anywhere⟩
  · rw [ensures_bind, ensures_get, ensures_bind, ensures_left]
    refine Keeps.takeWhile_bind (fun low _ hlow => .accept_bind ?_ ?_) here hhere
    · refine hend fun hinfix => ?_
      have hbound : IsBound text low := ⟨hlow, low, none, hinfix, .inl rfl⟩
      exact ⟨hbound, hbound⟩
    · refine .left_bind fun _ => .takeWhile_bind fun high _ hhigh => hend fun hinfix => ?_
      have hbraced : bracedBounds low (some high) <:+: text := by
        simpa [bracedBounds] using hinfix
      exact ⟨⟨hlow, low, some high, hbraced, .inl rfl⟩, hhigh, low, some high, hbraced, .inr rfl⟩

theorem repeatLast_keeps (s : Items) (lower : Nat) (upper : Option Nat) :
    (s.repeatLast lower upper).Keeps text last n := by
  unfold Items.repeatLast
  split
  · exact .bind (.modify fun _ hr => hr.learn ..) fun _ _ => .pure trivial
  · exact .malformed

theorem repetition_keeps (s : Items) (lower : Nat) (upper : Option Nat) :
    (repetition s lower upper).Keeps text last n := by
  refine .bind (repeatLast_keeps s lower upper) fun s _ => .bind (.accept _) fun lazy _ => ?_
  exact .ite (fun _ => .pure trivial) fun _ => .bind (.accept _) fun _ _ => .pure trivial

theorem repeatSign_keeps (s : Items) {c : Char} (hc : c ∈ ['?', '*', '+', '\x7b']) :
    (repeatSign s c).Keeps text [c] n := by
  have hbraces : Keeps text ['\x7b'] n (repeatSign s '\x7b') := by
    refine .bind braces_keeps fun bounds? _ => ?_
    cases bounds? with
    | some bounds => exact repetition_keeps s _ _
    | none => exact .pure trivial
  simp only [List.mem_cons, List.not_mem_nil, or_false] at hc
  rcases hc with rfl | rfl | rfl | rfl
  · exact repetition_keeps s _ _
  · exact repetition_keeps s _ _
  · exact repetition_keeps s _ _
  · exact hbraces

/-! ### Openings -/

theorem skipLine_keeps (most : Nat) : (skipLine most).Keeps text last n := by
  induction most generalizing last with
  | zero => exact .pure trivial
  | succ most ih =>
    refine .bind .take fun t? _ => ?_
    cases t? with
    | none => exact .pure trivial
    | some t => exact .ite (fun _ => .pure trivial) fun _ => ih

theorem skipComment_keeps (fuel : Nat) : (skipComment fuel).Keeps text last n := by
  induction fuel generalizing last with
  | zero => exact .malformed
  | succ fuel ih => exact .bind .takeSome fun t _ => .ite (fun _ => .pure trivial) fun _ => ih

theorem groupName_keeps (mark : Char) : (groupName mark).Keeps text last n :=
  .bind (.name mark) fun _ _ => .otherwise fun _ => .pure trivial

theorem groupNamed_keeps (name : String) : (groupNamed name).Keeps text last n := by
  refine .bind .get fun r _ => ?_
  split
  · exact .pure trivial
  · exact .malformed

theorem conditionGroup_keeps : conditionGroup.Keeps text last n := by
  refine .bind (.name _) fun cs _ => .ite (fun _ => groupNamed_keeps _) fun _ => ?_
  split
  · exact .otherwise fun _ => .bind (.modify fun _ hr => hr.learn ..) fun _ _ => .pure trivial
  · exact .malformed

theorem openGroup_keeps (name? : Option String) : (openGroup name?).Keeps text last n := by
  intro r hr
  unfold openGroup
  rw [ensures_bind, ensures_get]
  dsimp only
  split
  · trivial
  · exact ⟨trivial, (hr.learn ..).anywhere⟩

theorem closeGroup_keeps (number : Nat) (w : Width) : (closeGroup number w).Keeps text last n :=
  .modify fun _ hr => hr.learn ..

/-- What an opening parenthesis begins stands in the text. -/
def Opening.StandsIn (text : List Char) : Opening → Prop
  | .flags on => ∀ c ∈ on, SetsFlag text c
  | .look true => LooksBehind text
  | _ => True

theorem named_keeps : named.Keeps text last n (·.StandsIn text) := by
  refine .bind (.accept _) fun named _ => .ite (fun _ => ?_) fun _ => ?_
  · exact .bind (groupName_keeps _) fun _ _ => .pure trivial
  · refine .bind (.accept _) fun referred _ => .ite (fun _ => ?_) fun _ => .malformed
    refine .bind (groupName_keeps _) fun name _ => .bind (groupNamed_keeps name) fun number _ => ?_
    exact .bind (.reference number) fun _ _ => .pure trivial

theorem extension_keeps : extension.Keeps text ['(', '?'] n (·.StandsIn text) := by
  refine .takeSome_bind fun t => ?_
  split
  · exact named_keeps
  · exact .pure trivial
  · exact .pure trivial
  · exact .bind .left fun _ _ => .bind (skipComment_keeps _) fun _ _ => .pure trivial
  · exact .pure trivial
  · exact .pure trivial
  · refine .takeSome_bind fun t => ?_
    split
    · exact fun r hr => ⟨.inl hr.infix, hr.anywhere⟩
    · exact fun r hr => ⟨.inr hr.infix, hr.anywhere⟩
    · exact .malformed
  · refine .bind conditionGroup_keeps fun number _ => .bind .get fun r _ => ?_
    refine .ite (fun _ => ?_) fun _ => .pure trivial
    exact .bind (.reference number) fun _ _ => .pure trivial
  next c _ _ _ _ _ _ _ _ =>
    refine .ite (fun hletter => ?_) fun _ => .malformed
    have hc : c ∈ flagLetters ∨ c = '-' := by
      rwa [Bool.or_eq_true, List.contains_iff_mem, beq_iff_eq] at hletter
    refine .bind (flags_keeps hc) fun setting hsetting => ?_
    cases setting with
    | whole on => exact .pure hsetting
    | group on off => exact .pure trivial
  · exact .malformed

theorem opening_keeps : opening.Keeps text ['('] n (·.StandsIn text) :=
  .accept_bind (.pure trivial) extension_keeps

/-! ### Groups -/

theorem lookingBehind_keeps {α : Type} (behind : Bool) {p : Reading α} (h : p.Keeps text [] n) :
    (lookingBehind behind p).Keeps text [] n := by
  refine .ite (fun _ => h) fun _ => .bind .get fun r _ => ?_
  refine .bind (.modify fun _ hr => hr.learn ..) fun _ _ => .bind h fun a _ => ?_
  exact .bind (.modify fun _ hr => hr.learn ..) fun _ _ => .pure trivial

/-- The depth that is left is what the parentheses read so far have left over: each of them begins
a group with its sequences. -/
def DepthLeft (text : List Char) (depth n : Nat) : Prop :=
  maxDepth + 2 * n ≤ depth + 2 * text.count '('

theorem DepthLeft.mono {depth m : Nat} (h : DepthLeft text depth n) (hm : m ≤ n) :
    DepthLeft text depth m := by
  unfold DepthLeft at *
  omega

/-- Inside a group the depth is less by two, and there is one parenthesis less to come. -/
theorem DepthLeft.inner {depth m : Nat} (h : DepthLeft text (depth + 2) (m + 1)) :
    DepthLeft text depth m := by
  unfold DepthLeft at *
  omega

theorem DepthLeft.succ {depth : Nat} (h : DepthLeft text depth n) :
    DepthLeft text (depth + 1) n := by
  unfold DepthLeft at *
  omega

/-- Where hardly any depth is left, the text has the parentheses for it. -/
theorem DepthLeft.shown (h : DepthLeft text 1 n) : Limit.depth.ShownIn text := by
  unfold DepthLeft at h
  show maxDepth ≤ 2 * text.count '('
  -- the greatest depth is even
  have heven : maxDepth = 2 * 491 := rfl
  omega

/-- Parts that are read with some fuel keep the reader at a place of the text. -/
structure KeepsWithFuel (text : List Char) (fuel : Nat) : Prop where
  /-- A choice between sequences does. -/
  alternatives : ∀ {depth n : Nat}, DepthLeft text depth n → ∀ verbose outermost first,
    (alternatives fuel depth verbose outermost first).Keeps text [] n
  /-- The items of a sequence do. -/
  sequence : ∀ {depth n : Nat}, DepthLeft text (depth + 1) n → ∀ verbose first s,
    (sequence fuel depth verbose first s).Keeps text [] n
  /-- A group does whose opening stands in the text. -/
  group : ∀ {depth n : Nat}, DepthLeft text depth n → ∀ verbose first s (opening : Opening),
    opening.StandsIn text → (group fuel depth verbose first s opening).Keeps text [] n

section

variable {fuel depth : Nat}

theorem alternatives_keeps (h : KeepsWithFuel text fuel) (hdepth : DepthLeft text depth n)
    (verbose outermost first : Bool) :
    (alternatives (fuel + 1) depth verbose outermost first).Keeps text [] n := by
  cases depth with
  | zero =>
    rw [alternatives]
    · exact .beyond hdepth.succ.shown
    · exact Nat.succ_ne_zero fuel
  | succ depth =>
    have hmore (w : Width) (verbose : Bool) : Keeps text [] n (do
        return w.union (← alternatives fuel (depth + 1) verbose outermost false)) :=
      .bind (h.alternatives hdepth _ _ _) fun _ _ => .pure trivial
    rw [alternatives]
    refine .bind (h.sequence hdepth _ _ _) fun w _ => .bind (.accept _) fun more _ => ?_
    refine .ite (fun _ => .ite (fun _ => ?_) fun _ => hmore w verbose) fun _ => .pure trivial
    exact .bind .get fun r _ => hmore w _

theorem sequence_keeps (h : KeepsWithFuel text fuel) (hdepth : DepthLeft text (depth + 1) n)
    (verbose first : Bool) (s : Items) :
    (sequence (fuel + 1) depth verbose first s).Keeps text [] n := by
  cases depth with
  | zero =>
    rw [sequence]
    · exact .beyond hdepth.shown
    · exact Nat.succ_ne_zero fuel
  | succ depth =>
    have hmore {m : Nat} (hm : m ≤ n) (verbose : Bool) (s : Items) :
        (sequence fuel (depth + 1) verbose first s).Keeps text [] m :=
      h.sequence (hdepth.mono hm) _ _ _
    rw [sequence]
    intro r hr
    rw [ensures_bind, ensures_peek]
    cases hnext : r.tokens.head? with
    | none => exact ⟨trivial, hr⟩
    | some t =>
      obtain ⟨rest, hrest⟩ := List.head?_eq_some_iff.mp hnext
      cases t with
      | dangling => trivial
      | escaped c =>
        dsimp only
        rw [ensures_bind]
        refine take_ensures_of_head hr hnext fun r' hr' => ?_
        refine Keeps.bind (escape_keeps c) (fun e _ => ?_) r' hr'
        cases e with
        | place => exact hmore (Nat.le_refl n) _ _
        | group w => exact hmore (Nat.le_refl n) _ _
        | char code => exact hmore (Nat.le_refl n) _ _
        | charClass => exact hmore (Nat.le_refl n) _ _
      | plain c =>
        dsimp only
        by_cases hstop : (c == '|' || c == ')') = true
        · rw [if_pos hstop]
          exact ⟨trivial, hr⟩
        · rw [if_neg hstop, ensures_bind]
          obtain ⟨m, hm, hparen, hr'⟩ := hr.take_plain hrest
          -- the character decides what comes next; only a group takes depth away
          refine ensures_take_cons hrest (Keeps.weaken ?_ hm hr') trivial
          refine .ite (fun _ => (hmore hm _ _).anywhere) fun _ => ?_
          refine .ite (fun _ => ?_) fun _ => .ite (fun hopen => ?_) fun _ => ?_
          · exact .bind .left fun k _ => .bind (skipLine_keeps k) fun _ _ => hmore hm _ _
          · obtain rfl : c = '(' := beq_iff_eq.mp hopen
            obtain rfl := hparen rfl
            refine .bind opening_keeps fun o ho => ?_
            exact .bind (h.group hdepth.inner _ _ _ o ho) fun _ _ => hmore hm _ _
          · refine .ite (fun _ => .bind charClass_keeps fun _ _ => hmore hm _ _) fun _ => ?_
            refine .ite (fun _ => (hmore hm _ _).anywhere) fun _ => ?_
            refine .ite (fun hsign => ?_) fun _ => (hmore hm _ _).anywhere
            refine .bind (repeatSign_keeps s ?_) fun s _ => hmore hm _ s
            simpa [or_assoc] using hsign

theorem group_keeps (h : KeepsWithFuel text fuel) (hdepth : DepthLeft text depth n)
    (verbose first : Bool) (s : Items) (opening : Opening) (hopening : opening.StandsIn text) :
    (group (fuel + 1) depth verbose first s opening).Keeps text [] n := by
  cases opening with
  | comment =>
    rw [group]
    exact .pure trivial
  | flags on =>
    rw [group]
    refine .bind (.modify fun r hr => ?_) fun _ _ => .otherwise fun _ => ?_
    · exact { hr with flags := List.forall_mem_append.mpr ⟨hopening, hr.flags⟩ }
    · exact .bind .get fun r _ => .pure trivial
  | backreference w =>
    rw [group]
    exact .pure trivial
  | look behind =>
    rw [group]
    refine .bind (lookingBehind_keeps behind (h.alternatives hdepth _ _ _)) fun w _ => ?_
    refine .bind (.expect _) fun _ _ => .ite (fun hbehind => ?_) fun _ => .pure trivial
    subst hbehind
    refine .bind (.modify fun r hr => ?_) fun _ _ => .pure trivial
    exact { hr with behind := fun _ => hopening }
  | condition number =>
    have hend (yes no : Width) : Keeps text [] n (do
        expect ')'
        return (s.push .simple (yes.union no), verbose)) :=
      .bind (.expect _) fun _ _ => .pure trivial
    rw [group]
    refine .bind (h.sequence hdepth.succ _ _ _) fun yes _ => .bind (.accept _) fun more _ => ?_
    refine .ite (fun _ => ?_) fun _ => hend yes _
    exact .bind (h.sequence hdepth.succ _ _ _) fun no _ => hend yes no
  | plain on off =>
    rw [group]
    refine .bind (h.alternatives hdepth _ _ _) fun w _ => .bind (.expect _) fun _ _ => ?_
    exact .pure trivial
  | capture name? =>
    rw [group]
    refine .bind (openGroup_keeps name?) fun number _ => ?_
    refine .bind (h.alternatives hdepth _ _ _) fun w _ => .bind (.expect _) fun _ _ => ?_
    exact .bind (closeGroup_keeps number w) fun _ _ => .pure trivial

theorem keepsWithFuel (text : List Char) (fuel : Nat) : KeepsWithFuel text fuel := by
  induction fuel with
  | zero =>
    refine ⟨fun _ _ _ _ => ?_, fun _ _ _ _ => ?_, fun _ _ _ _ _ _ => ?_⟩
    · rw [alternatives]
      exact .malformed
    · rw [sequence]
      exact .malformed
    · rw [group]
      exact .malformed
  | succ fuel ih => exact ⟨alternatives_keeps ih, sequence_keeps ih, group_keeps ih⟩

end

/-! ### Whole patterns -/

theorem whole_keeps (text : List Char) : whole.Keeps text [] (text.count '(') := by
  refine .bind .peek fun next _ => .otherwise fun _ => .bind .left fun k _ => ?_
  have hdepth : DepthLeft text maxDepth (text.count '(') := Nat.le_refl _
  refine .bind ((keepsWithFuel text _).alternatives hdepth _ _ _) fun _ _ => ?_
  refine .get_bind fun r hr => .ite (fun hflags => .beyond_bind _ ?_) fun _ =>
    .ite (fun _ => .malformed) fun _ => ?_
  · rw [Bool.and_eq_true, List.contains_iff_mem, List.contains_iff_mem] at hflags
    exact ⟨hr.flags _ hflags.1, hr.flags _ hflags.2⟩
  · exact .pure trivial

/-- Where a broken grammar is told first, a limit is gone beyond by what comes next. -/
theorem beyond_of_otherwise {c : Prop} [Decidable c] {k : Unit → Except Flaw Unit}
    {q : Except Flaw Unit} {l : Limit}
    (h : (if c then throw .malformed >>= k else q) = .error (.beyond l)) :
    q = .error (.beyond l) := by
  by_cases hc : c
  · rw [if_pos hc] at h
    injection Except.error.inj h
  · rwa [if_neg hc] at h

/-- What a pattern says of itself goes beyond a limit only by what it looks for behind a
position. -/
theorem coherent_beyond {r : Reader} {l : Limit} (h : coherent r = .error (.beyond l)) :
    l = .width ∧ r.lookedBehind ≠ [] := by
  have hwidth := beyond_of_otherwise <| beyond_of_otherwise <| beyond_of_otherwise <|
    beyond_of_otherwise h
  split at hwidth
  next hlong =>
    refine ⟨(Flaw.beyond.inj (Except.error.inj hwidth)).symm, fun hnone => ?_⟩
    rw [hnone] at hlong
    exact Bool.false_ne_true hlong
  next => exact nomatch hwidth

/-- Judgements can be compared. -/
instance : DecidableEq (Except Flaw Unit)
  | .ok _, .ok _ => isTrue rfl
  | .error f, .error g => decidable_of_iff (f = g) ⟨congrArg _, Except.error.inj⟩
  | .ok _, .error _ => isFalse nofun
  | .error _, .ok _ => isFalse nofun

/-- A text that goes beyond a limit as a pattern shows what asks for too much. -/
theorem shown_of_judge {s : String} {l : Limit} (h : judge s = .error (.beyond l)) :
    l.ShownIn s.toList := by
  have hread := whole_keeps s.toList _ (Reader.At.start s)
  unfold Ensures at hread
  rw [judge] at h
  cases hrun : whole.run { tokens := Token.lex s.toList } with
  | error f =>
    rw [hrun] at h hread
    obtain rfl : f = .beyond l := Except.error.inj h
    exact hread
  | ok end' =>
    rw [hrun] at h hread
    obtain ⟨rfl, hbehind⟩ := coherent_beyond h
    exact hread.2.behind hbehind

end Entitlements.Pattern

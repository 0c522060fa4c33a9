import Entitlements.Pattern.Judge

/-!
# Places of a reader of patterns

Reading a pattern goes through its text from the start to the end and takes nothing back but the
bounds of a repetition that turn out to be none. So the reader always stands at a place of the text,
and what it has learned stands before that place. Where it finds that a limit is gone beyond, the
text shows what asks for too much.
-/

namespace Entitlements.Pattern

/-- The bounds of a repetition between braces: one, or two with a comma between them. -/
def bracedBounds (low : List Char) : Option (List Char) → List Char
  | none => '\x7b' :: low ++ ['\x7d']
  | some high => '\x7b' :: low ++ ',' :: high ++ ['\x7d']

/-- The digits stand in the text as a bound of a repetition. -/
def IsBound (text digits : List Char) : Prop :=
  (∀ c ∈ digits, c.isDigit = true) ∧
    ∃ low high?, bracedBounds low high? <:+: text ∧ (digits = low ∨ high? = some digits)

/-- The digits stand in the text as the code of a character, in its longest form. -/
def IsLongCode (text digits : List Char) : Prop :=
  (∀ c ∈ digits, isHex c = true) ∧ digits.length = 8 ∧ '\\' :: 'U' :: digits <:+: text

/-- The text turns a flag on for the whole pattern. -/
def SetsFlag (text : List Char) (c : Char) : Prop :=
  ∃ letters, (∀ d ∈ letters, d ∈ flagLetters) ∧ c ∈ letters ∧
    '(' :: '?' :: letters ++ [')'] <:+: text

/-- The text looks for something behind a position. -/
def LooksBehind (text : List Char) : Prop :=
  ['(', '?', '<', '='] <:+: text ∨ ['(', '?', '<', '!'] <:+: text

/-- What a text shows that goes beyond a limit as a pattern: a bound or a code that is too large, a
bound with too many digits, both flags that contradict one another, as many groups as can stand
inside one another, or something looked for behind a position. -/
def Limit.ShownIn (text : List Char) : Limit → Prop
  | .count => (∃ ds, IsBound text ds ∧ boundLimit ≤ valueOf 10 ds) ∨
    ∃ ds, IsLongCode text ds ∧ 0x80000000 ≤ valueOf 16 ds
  | .digits => ∃ ds, IsBound text ds ∧ Number.maxDigits < ds.length
  | .contradiction => SetsFlag text 'a' ∧ SetsFlag text 'u'
  | .depth => maxDepth ≤ 2 * text.count '('
  | .width => LooksBehind text

/-- A text shows a flaw if it shows the limit that it goes beyond. -/
def Flaw.ShownIn (text : List Char) : Flaw → Prop
  | .malformed => True
  | .beyond l => l.ShownIn text

/-- The characters that are left to read. -/
def Reader.rest (r : Reader) : List Char := r.tokens.flatMap Token.chars

/-- The reader stands at a place of the text right after some characters, with at most so many
opening parentheses still to come. What it has learned stands in the text. -/
structure Reader.At (text last : List Char) (n : Nat) (r : Reader) : Prop where
  /-- The text goes on with what is left. -/
  place : last ++ r.rest <:+ text
  /-- No more parentheses are to come. -/
  parens : r.rest.count '(' ≤ n
  /-- The flags of the whole pattern stand in the text. -/
  flags : ∀ c ∈ r.flags, SetsFlag text c
  /-- Widths are kept only of what is looked for behind a position. -/
  behind : r.lookedBehind ≠ [] → LooksBehind text

namespace Reader

variable {text last : List Char} {n m : Nat} {r : Reader} {t : Token} {rest : List Token}

theorem At.start (text : String) :
    ({ tokens := Token.lex text.toList } : Reader).At text.toList [] (text.toList.count '(') := by
  have hrest : ({ tokens := Token.lex text.toList } : Reader).rest = text.toList :=
    Token.flatMap_chars_lex _
  refine ⟨?_, ?_, nofun, nofun⟩
  · rw [hrest]
    exact List.suffix_rfl
  · exact Nat.le_of_eq (congrArg (List.count '(') hrest)

theorem At.mono (h : r.At text last n) (hm : n ≤ m) : r.At text last m :=
  { h with parens := Nat.le_trans h.parens hm }

/-- The characters right before the place can be forgotten. -/
theorem At.anywhere (h : r.At text last n) : r.At text [] n :=
  { h with place := (List.suffix_append last r.rest).trans h.place }

/-- What stands right before the place stands in the text. -/
theorem At.infix (h : r.At text last n) : last <:+: text :=
  (List.prefix_append last r.rest).isInfix.trans h.place.isInfix

/-- Whatever else the reader learns has nothing to do with its place. -/
theorem At.learn (h : r.At text last n) (groups : List (Option Width)) (names : List (String × Nat))
    (behind? : Option Nat) (conditions : List Nat) (repeats : Bool) :
    Reader.At text last n { r with groups, names, behind?, conditions, repeats } :=
  ⟨h.place, h.parens, h.flags, h.behind⟩

theorem rest_of_tokens (h : r.tokens = t :: rest) :
    r.rest = t.chars ++ rest.flatMap Token.chars := by
  rw [Reader.rest, h, List.flatMap_cons]

/-- A token further, the reader stands after the characters of the token. -/
theorem At.take (h : r.At text last n) (ht : r.tokens = t :: rest) :
    ({ r with tokens := rest } : Reader).At text (last ++ t.chars) n where
  place := by
    have hplace := h.place
    rwa [rest_of_tokens ht, ← List.append_assoc] at hplace
  parens := by
    have hparens := h.parens
    rw [rest_of_tokens ht, List.count_append] at hparens
    exact Nat.le_trans (Nat.le_add_left _ _) hparens
  flags := h.flags
  behind := h.behind

/-- After an opening parenthesis one less is to come. -/
theorem At.take_plain {c : Char} (h : r.At text last n) (ht : r.tokens = .plain c :: rest) :
    ∃ m ≤ n, (c = '(' → n = m + 1) ∧
      ({ r with tokens := rest } : Reader).At text (last ++ [c]) m := by
  by_cases hc : c = '('
  · subst hc
    have hparens := h.parens
    rw [rest_of_tokens ht, Token.chars, List.singleton_append, List.count_cons_self] at hparens
    refine ⟨n - 1, Nat.sub_le _ _, fun _ => by omega, { h.take ht with parens := ?_ }⟩
    exact Nat.le_sub_one_of_lt hparens
  · exact ⟨n, Nat.le_refl n, fun h => absurd h hc, h.take ht⟩

end Reader

namespace Reading

variable {α β : Type} {text last : List Char} {n : Nat} {r : Reader} {ok : α → Reader → Prop}
  {err : Flaw → Prop}

/-- The reading ends well as `ok` says, or finds a flaw as `err` says. -/
def Ensures (p : Reading α) (r : Reader) (ok : α → Reader → Prop) (err : Flaw → Prop) : Prop :=
  match p.run r with
  | .ok (a, r') => ok a r'
  | .error f => err f

theorem ensures_get {ok : Reader → Reader → Prop} : Ensures get r ok err ↔ ok r r := Iff.rfl

theorem ensures_bind (p : Reading β) (k : β → Reading α) :
    Ensures (p >>= k) r ok err ↔ p.Ensures r (fun b r' => (k b).Ensures r' ok err) err := by
  simp only [Ensures, StateT.run_bind]
  cases p.run r <;> rfl

theorem Ensures.mono {p : Reading α} {ok' : α → Reader → Prop} {err' : Flaw → Prop}
    (h : p.Ensures r ok err) (hok : ∀ a r', ok a r' → ok' a r') (herr : ∀ f, err f → err' f) :
    p.Ensures r ok' err' := by
  unfold Ensures at h ⊢
  cases hp : p.run r with
  | error f =>
    rw [hp] at h
    exact herr f h
  | ok x =>
    rw [hp] at h
    exact hok x.1 x.2 h

theorem ensures_peek {ok : Option Token → Reader → Prop} :
    Ensures peek r ok err ↔ ok r.tokens.head? r := Iff.rfl

theorem ensures_left {ok : Nat → Reader → Prop} :
    Ensures left r ok err ↔ ok r.tokens.length r := Iff.rfl

theorem ensures_take_cons {ok : Option Token → Reader → Prop} {t : Token} {rest : List Token}
    (ht : r.tokens = t :: rest) (hsome : ok (some t) { r with tokens := rest })
    (hbad : err .malformed) : Ensures take r ok err := by
  rw [take, ensures_bind, ensures_get, ht]
  dsimp only
  by_cases hdangling : (rest.head? == some .dangling) = true
  · rw [if_pos hdangling]
    exact hbad
  · rw [if_neg hdangling]
    exact hsome

section

variable (hr : r.At text last n)
include hr

/-- A token further the reader stands after the characters of the token. -/
theorem take_ensures {ok : Option Token → Reader → Prop} (hnone : ok none r)
    (hsome : ∀ t r', r'.At text (last ++ t.chars) n → ok (some t) r') :
    take.Ensures r ok (Flaw.ShownIn text) := by
  cases ht : r.tokens with
  | nil =>
    rw [take, ensures_bind, ensures_get, ht]
    exact hnone
  | cons t rest => exact ensures_take_cons ht (hsome t _ (hr.take ht)) trivial

theorem take_ensures_of_head {t : Token} {ok : Option Token → Reader → Prop}
    (ht : r.tokens.head? = some t) (hsome : ∀ r', r'.At text (last ++ t.chars) n → ok (some t) r') :
    take.Ensures r ok (Flaw.ShownIn text) := by
  obtain ⟨rest, hrest⟩ := List.head?_eq_some_iff.mp ht
  exact ensures_take_cons hrest (hsome _ (hr.take hrest)) trivial

theorem takeSome_ensures {ok : Token → Reader → Prop}
    (hsome : ∀ t r', r'.At text (last ++ t.chars) n → ok t r') :
    takeSome.Ensures r ok (Flaw.ShownIn text) := by
  rw [takeSome, ensures_bind]
  exact take_ensures hr trivial hsome

theorem accept_ensures {c : Char} {ok : Bool → Reader → Prop} (hno : ok false r)
    (hyes : ∀ r', r'.At text (last ++ [c]) n → ok true r') :
    (accept c).Ensures r ok (Flaw.ShownIn text) := by
  rw [accept, ensures_bind, ensures_peek]
  by_cases hnext : (r.tokens.head? == some (.plain c)) = true
  · rw [if_pos hnext, ensures_bind]
    exact take_ensures_of_head hr (beq_iff_eq.mp hnext) hyes
  · rw [if_neg hnext]
    exact hno

theorem expect_ensures {c : Char} {ok : Unit → Reader → Prop}
    (hyes : ∀ r', r'.At text (last ++ [c]) n → ok () r') :
    (expect c).Ensures r ok (Flaw.ShownIn text) := by
  rw [expect, ensures_bind]
  exact accept_ensures hr trivial hyes

end

/-- The characters taken all belong to the class, and the reader stands right after them. -/
theorem takeWhile_ensures {belongs : Char → Bool} {most : Nat} {ok : List Char → Reader → Prop}
    (hr : r.At text last n)
    (hok : ∀ cs r', cs.length ≤ most → (∀ c ∈ cs, belongs c = true) → r'.At text (last ++ cs) n →
      ok cs r') :
    (takeWhile belongs most).Ensures r ok (Flaw.ShownIn text) := by
  have hnone : ok [] r := hok [] r (Nat.zero_le _) nofun (by rwa [List.append_nil])
  -- each character that is taken joins those that the reader stands after
  induction most generalizing r last ok with
  | zero => exact hnone
  | succ most ih =>
    rw [takeWhile, ensures_bind, ensures_peek]
    split
    next c hnext =>
      by_cases hc : belongs c = true
      · rw [if_pos hc, ensures_bind]
        refine take_ensures_of_head hr hnext fun r' hr' => ?_
        have hmore (cs : List Char) (r'' : Reader) (hlength : cs.length ≤ most)
            (hcs : ∀ c ∈ cs, belongs c = true) (hr'' : r''.At text (last ++ [c] ++ cs) n) :
            ok (c :: cs) r'' := by
          refine hok _ _ (Nat.succ_le_succ hlength) (List.forall_mem_cons.mpr ⟨hc, hcs⟩) ?_
          rwa [List.append_assoc] at hr''
        rw [ensures_bind]
        exact ih hr' hmore (hmore [] r' (Nat.zero_le _) nofun (by rwa [List.append_nil]))
      · rw [if_neg hc]
        exact hnone
    next => exact hnone

/-- Wherever the reading begins right after some characters, it ends with a value as said and at a
place of the text with no more opening parentheses to come. The text shows the limit that it goes
beyond, if any. -/
def Keeps (text last : List Char) (n : Nat) (p : Reading α) (V : α → Prop := fun _ => True) :
    Prop :=
  ∀ r, r.At text last n → p.Ensures r (fun a r' => V a ∧ r'.At text [] n) (Flaw.ShownIn text)

namespace Keeps

variable {V : α → Prop} {W : β → Prop}

theorem weaken {p : Reading α} {m : Nat} (h : p.Keeps text last m V) (hm : m ≤ n)
    (hr : r.At text last m) :
    p.Ensures r (fun a r' => V a ∧ r'.At text [] n) (Flaw.ShownIn text) :=
  (h r hr).mono (fun _ _ h => ⟨h.1, h.2.mono hm⟩) fun _ => id

theorem pure {a : α} (h : V a) : (pure a : Reading α).Keeps text last n V :=
  fun _ hr => ⟨h, hr.anywhere⟩

theorem malformed : (malformed : Reading α).Keeps text last n V := fun _ _ => trivial

/-- Nothing is done after a flaw. -/
theorem malformed_bind (k : β → Reading α) : (Reading.malformed >>= k).Keeps text last n V :=
  fun _ _ => trivial

/-- A limit that the text shows may be gone beyond. -/
theorem beyond {l : Limit} (h : l.ShownIn text) :
    (throw (.beyond l) : Reading α).Keeps text last n V := fun _ _ => h

theorem beyond_bind {l : Limit} (k : β → Reading α) (h : l.ShownIn text) :
    (throw (.beyond l) >>= k).Keeps text last n V := fun _ _ => h

theorem bind {p : Reading β} {k : β → Reading α} (hp : p.Keeps text last n W)
    (hk : ∀ b, W b → (k b).Keeps text [] n V) : (p >>= k).Keeps text last n V := by
  intro r hr
  rw [ensures_bind]
  exact (hp r hr).mono (fun b r' hr' => hk b hr'.1 r' hr'.2) fun _ => id

theorem ite {p q : Reading α} {c : Prop} [Decidable c] (hp : c → p.Keeps text last n V)
    (hq : ¬ c → q.Keeps text last n V) : (if c then p else q).Keeps text last n V := by
  by_cases hc : c
  · rw [if_pos hc]
    exact hp hc
  · rw [if_neg hc]
    exact hq hc

/-- A flaw where something holds, and else what comes next. -/
theorem otherwise {k : β → Reading α} {q : Reading α} {c : Prop} [Decidable c]
    (hq : ¬ c → q.Keeps text last n V) :
    (if c then Reading.malformed >>= k else q).Keeps text last n V :=
  ite (fun _ => malformed_bind k) hq

theorem get : (get : Reading Reader).Keeps text last n := fun _ hr => ⟨trivial, hr.anywhere⟩

theorem get_bind {k : Reader → Reading α}
    (hk : ∀ r, r.At text last n → (k r).Keeps text last n V) :
    (MonadState.get >>= k).Keeps text last n V := fun r hr => hk r hr r hr

theorem modify {f : Reader → Reader} (hf : ∀ r, r.At text last n → (f r).At text last n) :
    (modify f : Reading PUnit).Keeps text last n :=
  fun r hr => ⟨trivial, (hf r hr).anywhere⟩

theorem peek : Reading.peek.Keeps text last n := fun _ hr => ⟨trivial, hr.anywhere⟩

theorem left : Reading.left.Keeps text last n := fun _ hr => ⟨trivial, hr.anywhere⟩

theorem take : Reading.take.Keeps text last n :=
  fun _ hr => take_ensures hr ⟨trivial, hr.anywhere⟩ fun _ _ hr' => ⟨trivial, hr'.anywhere⟩

/-- After a token the reader stands after its characters. -/
theorem takeSome_bind {k : Token → Reading α} (hk : ∀ t, (k t).Keeps text (last ++ t.chars) n V) :
    (takeSome >>= k).Keeps text last n V := by
  intro r hr
  rw [ensures_bind]
  exact takeSome_ensures hr fun t r' hr' => hk t r' hr'

theorem accept_bind {c : Char} {k : Bool → Reading α} (hno : (k false).Keeps text last n V)
    (hyes : (k true).Keeps text (last ++ [c]) n V) : (accept c >>= k).Keeps text last n V := by
  intro r hr
  rw [ensures_bind]
  exact accept_ensures hr (hno r hr) hyes

theorem takeWhile_bind {belongs : Char → Bool} {most : Nat} {k : List Char → Reading α}
    (hk : ∀ cs, cs.length ≤ most → (∀ c ∈ cs, belongs c = true) →
      (k cs).Keeps text (last ++ cs) n V) : (takeWhile belongs most >>= k).Keeps text last n V := by
  intro r hr
  rw [ensures_bind]
  exact takeWhile_ensures hr fun cs r' hlength hcs hr' => hk cs hlength hcs r' hr'

/-- Looking at what is left does not move the reader. -/
theorem left_bind {k : Nat → Reading α} (hk : ∀ m, (k m).Keeps text last n V) :
    (Reading.left >>= k).Keeps text last n V := fun r hr => hk _ r hr

theorem anywhere {p : Reading α} (h : p.Keeps text [] n V) : p.Keeps text last n V :=
  fun r hr => h r hr.anywhere

theorem takeSome : Reading.takeSome.Keeps text last n :=
  fun _ hr => takeSome_ensures hr fun _ _ hr' => ⟨trivial, hr'.anywhere⟩

theorem accept (c : Char) : (Reading.accept c).Keeps text last n :=
  fun _ hr => accept_ensures hr ⟨trivial, hr.anywhere⟩ fun _ hr' => ⟨trivial, hr'.anywhere⟩

theorem expect (c : Char) : (Reading.expect c).Keeps text last n :=
  fun _ hr => expect_ensures hr fun _ hr' => ⟨trivial, hr'.anywhere⟩

theorem takeWhile (belongs : Char → Bool) (most : Nat) :
    (Reading.takeWhile belongs most).Keeps text last n :=
  fun _ hr => takeWhile_ensures hr fun _ _ _ _ hr' => ⟨trivial, hr'.anywhere⟩

theorem takeUntil (mark : Char) (fuel : Nat) : (Reading.takeUntil mark fuel).Keeps text last n := by
  induction fuel generalizing last with
  | zero => exact malformed
  | succ fuel ih =>
    refine bind takeSome fun t _ => ite (fun _ => pure trivial) fun _ => ?_
    exact bind ih fun _ _ => pure trivial

theorem name (mark : Char) : (Reading.name mark).Keeps text last n :=
  bind left fun _ _ => bind (takeUntil mark _) fun _ _ => otherwise fun _ => pure trivial

theorem closedGroup? (number : Nat) : (Reading.closedGroup? number).Keeps text last n :=
  bind get fun _ _ => pure trivial

theorem reference (number : Nat) : (Reading.reference number).Keeps text last n := by
  refine bind (closedGroup? number) fun w? _ => ?_
  cases w? with
  | none => exact malformed
  | some w => exact bind get fun r _ => otherwise fun _ => pure trivial

end Keeps

end Reading

end Entitlements.Pattern

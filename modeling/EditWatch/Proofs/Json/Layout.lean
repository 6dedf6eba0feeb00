import EditWatch.Json.Text

/-!
# EditWatch.Proofs.Json.Layout -- one text, with more or less white space

The compact and the indented text of a value differ in what stands in front of an item, of a member
and of a closing bracket, and behind a colon. Here this is left open: a layout gives it, and the two
texts are those of two layouts.
-/

namespace EditWatch.Json

/-- What stands in front of an item, a member or a closing bracket at a level, and behind a colon. -/
structure Layout where
  line : Nat → List Char
  colon : List Char

namespace Layout

def compact : Layout := ⟨fun _ => [], []⟩

def indented : Layout := ⟨newLine, [' ']⟩

/-- Nothing but white space is between the tokens. -/
structure Blank (l : Layout) : Prop where
  line : ∀ level, ∀ c ∈ l.line level, isSpace c = true
  colon : ∀ c ∈ l.colon, isSpace c = true

theorem blank_compact : compact.Blank where
  line _ := List.forall_mem_nil _
  colon := List.forall_mem_nil _

theorem blank_indented : indented.Blank where
  line level := by
    refine List.forall_mem_cons.mpr ⟨rfl, fun c hc => ?_⟩
    rw [List.eq_of_mem_replicate hc]
    rfl
  colon := by
    rw [indented, List.forall_mem_singleton]
    rfl

end Layout

mutual

/-- A value in a layout. -/
def renderIn (l : Layout) (level : Nat) : Json → List Char
  | .arr (j :: js) =>
    '[' :: (l.line (level + 1) ++ (renderIn l (level + 1) j ++ renderItemsIn l level js))
  | .obj ((k, j) :: ms) =>
    '\x7b' :: (l.line (level + 1) ++ (quote k ++ ':' ::
      (l.colon ++ (renderIn l (level + 1) j ++ renderMembersIn l level ms))))
  | j => render j

/-- The items behind the first one, and the closing bracket. -/
def renderItemsIn (l : Layout) (level : Nat) : List Json → List Char
  | [] => l.line level ++ [']']
  | j :: js =>
    ',' :: (l.line (level + 1) ++ (renderIn l (level + 1) j ++ renderItemsIn l level js))

/-- The members behind the first one, and the closing brace. -/
def renderMembersIn (l : Layout) (level : Nat) : List (String × Json) → List Char
  | [] => l.line level ++ ['\x7d']
  | (k, j) :: ms =>
    ',' :: (l.line (level + 1) ++ (quote k ++ ':' ::
      (l.colon ++ (renderIn l (level + 1) j ++ renderMembersIn l level ms))))

end

/-! ## The two layouts -/

mutual

theorem renderIn_compact (level : Nat) : ∀ j : Json, renderIn .compact level j = render j
  | .null => rfl
  | .bool _ => rfl
  | .num _ => rfl
  | .str _ => rfl
  | .unreadable => rfl
  | .arr [] => rfl
  | .obj [] => rfl
  | .arr (j :: js) => by
      rw [renderIn, renderIn_compact (level + 1) j, renderItemsIn_compact level js]
      rfl
  | .obj ((k, j) :: ms) => by
      rw [renderIn, renderIn_compact (level + 1) j, renderMembersIn_compact level ms]
      rfl

theorem renderItemsIn_compact (level : Nat) :
    ∀ js : List Json, renderItemsIn .compact level js = renderItems js
  | [] => rfl
  | j :: js => by
      rw [renderItemsIn, renderIn_compact (level + 1) j, renderItemsIn_compact level js]
      rfl

theorem renderMembersIn_compact (level : Nat) :
    ∀ ms : List (String × Json), renderMembersIn .compact level ms = renderMembers ms
  | [] => rfl
  | (k, j) :: ms => by
      rw [renderMembersIn, renderIn_compact (level + 1) j, renderMembersIn_compact level ms]
      rfl

end

mutual

theorem renderIn_indented (level : Nat) :
    ∀ j : Json, renderIn .indented level j = renderIndented level j
  | .null => rfl
  | .bool b => by cases b <;> rfl
  | .num _ => rfl
  | .str _ => rfl
  | .unreadable => rfl
  | .arr [] => rfl
  | .obj [] => rfl
  | .arr (j :: js) => by
      rw [renderIn, renderIn_indented (level + 1) j, renderItemsIn_indented level js]
      rfl
  | .obj ((k, j) :: ms) => by
      rw [renderIn, renderIn_indented (level + 1) j, renderMembersIn_indented level ms]
      rfl

theorem renderItemsIn_indented (level : Nat) :
    ∀ js : List Json, renderItemsIn .indented level js = renderItemLines level js
  | [] => rfl
  | j :: js => by
      rw [renderItemsIn, renderIn_indented (level + 1) j, renderItemsIn_indented level js]
      rfl

theorem renderMembersIn_indented (level : Nat) :
    ∀ ms : List (String × Json), renderMembersIn .indented level ms = renderMemberLines level ms
  | [] => rfl
  | (k, j) :: ms => by
      rw [renderMembersIn, renderIn_indented (level + 1) j, renderMembersIn_indented level ms]
      rfl

end

end EditWatch.Json

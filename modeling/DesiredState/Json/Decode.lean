import DesiredState.Json.Token

/-!
# Reading JSON text

A text is one value with blanks around it. The last member of a repeated name gives the value, in
the place of the first.

* `Json.exceeds`: whether containers nest too deep, without recursion into the value.
* `Json.decode`: standard JSON that nests at most `maxDepth` deep.
* `Json.decodeStored`: any nesting, and the constants for infinity and not a number as well.
-/

namespace DesiredState.Json

/-- The blanks between the tokens of JSON. -/
def isSpace (c : CodePoint) : Bool := c.val = 0x20 || c.val = 0x09 || c.val = 0x0A || c.val = 0x0D

/-- The text without the blanks at its beginning. -/
def skipSpace (t : Text) : Text := t.dropWhile isSpace

/-- Which constants for numbers that are not finite are read as numbers. -/
inductive Constants
  | refused
  | allowed
  deriving DecidableEq

/-- A constant with its value, or the fault of having it. -/
def Constants.take (constants : Constants) (name : Text) (x : Binary64) (rest : Text) :
    Except Fault (Json × Text) :=
  match constants with
  | .refused => .error (.constant name)
  | .allowed => .ok (.float x, rest)

/-- A value that is neither string nor container: a literal name or a number. -/
def scanPlain (constants : Constants) (t : Text) : Except Fault (Json × Text) :=
  match Text.cut? "null" t, Text.cut? "true" t, Text.cut? "false" t with
  | some rest, _, _ => .ok (.null, rest)
  | _, some rest, _ => .ok (.bool true, rest)
  | _, _, some rest => .ok (.bool false, rest)
  | _, _, _ =>
    match Text.cut? "NaN" t, Text.cut? "Infinity" t, Text.cut? "-Infinity" t with
    | some rest, _, _ => constants.take "NaN" .nan rest
    | _, some rest, _ => constants.take "Infinity" (.infinite false) rest
    | _, _, some rest => constants.take "-Infinity" (.infinite true) rest
    | _, _, _ =>
      match Numeral.scan? t with
      | none => .error (.form .expectingValue t)
      | some (n, rest) =>
        match n.value with
        | .ok s => .ok (.scalar s, rest)
        | .error f => .error f

mutual

/-- The value at the beginning of a text, and what follows it. At most `room` more containers may
be opened. -/
def scanValue (constants : Constants) : (fuel room : Nat) → Text → Except Fault (Json × Text)
  | 0, _, t => .error (.form .expectingValue t)
  | _ + 1, _, [] => .error (.form .expectingValue [])
  | fuel + 1, room, c :: t =>
    if c = quote then
      match scanString (c :: t) t with
      | .ok (s, rest) => .ok (.str s, rest)
      | .error f => .error f
    else if c = '[' then
      match room with
      | 0 => .error .tooManyOpen
      | room + 1 =>
        match Text.cut? "]" (skipSpace t) with
        | some rest => .ok (.arr [], rest)
        | none =>
          match scanItems constants fuel room (skipSpace t) with
          | .ok (items, rest) => .ok (.arr items, rest)
          | .error f => .error f
    else if c = '{' then
      match room with
      | 0 => .error .tooManyOpen
      | room + 1 =>
        match Text.cut? "\x7d" (skipSpace t) with
        | some rest => .ok (.obj [], rest)
        | none =>
          match scanMembers constants fuel room (skipSpace t) with
          | .ok (members, rest) => .ok (.obj (Entries.ofPairs members), rest)
          | .error f => .error f
    else scanPlain constants (c :: t)

/-- The items from here to the closing bracket, and what follows it. -/
def scanItems (constants : Constants) : (fuel room : Nat) → Text →
    Except Fault (List Json × Text)
  | 0, _, t => .error (.form .expectingValue t)
  | fuel + 1, room, t =>
    match scanValue constants fuel room t with
    | .error f => .error f
    | .ok (v, t) =>
      match skipSpace t with
      | [] => .error (.form .expectingComma [])
      | c :: rest =>
        if c = ']' then .ok ([v], rest)
        else if c = ',' then
          match scanItems constants fuel room (skipSpace rest) with
          | .ok (vs, rest) => .ok (v :: vs, rest)
          | .error f => .error f
        else .error (.form .expectingComma (c :: rest))

/-- The members from here to the closing brace, and what follows it. -/
def scanMembers (constants : Constants) : (fuel room : Nat) → Text →
    Except Fault (List (Text × Json) × Text)
  | 0, _, t => .error (.form .expectingName t)
  | _ + 1, _, [] => .error (.form .expectingName [])
  | fuel + 1, room, c :: t =>
    if c = quote then
      match scanString (c :: t) t with
      | .error f => .error f
      | .ok (name, t) =>
        match Text.cut? ":" (skipSpace t) with
        | none => .error (.form .expectingColon (skipSpace t))
        | some t =>
          match scanValue constants fuel room (skipSpace t) with
          | .error f => .error f
          | .ok (v, t) =>
            match skipSpace t with
            | [] => .error (.form .expectingComma [])
            | c :: rest =>
              if c = '}' then .ok ([(name, v)], rest)
              else if c = ',' then
                match scanMembers constants fuel room (skipSpace rest) with
                | .ok (ms, rest) => .ok ((name, v) :: ms, rest)
                | .error f => .error f
              else .error (.form .expectingComma (c :: rest))
    else .error (.form .expectingName (c :: t))

end

/-- The one value that a text holds, whatever its depth. -/
def decodeWith (constants : Constants) (t : Text) : Except Fault Json :=
  match Text.cut? [CodePoint.ofNat 0xFEFF] t with
  | some _ => .error (.form .byteOrderMark t)
  | none =>
    match scanValue constants (2 * t.length + 1) maxOpen (skipSpace t) with
    | .error f => .error f
    | .ok (v, rest) =>
      match skipSpace rest with
      | [] => .ok v
      | c :: rest => .error (.form .extraData (c :: rest))

/-- The values right inside a container, and nothing for a scalar. -/
def parts? : Json → Option (List Json)
  | .scalar _ => none
  | .arr items => some items
  | .obj members => some (members.map fun (_, v) => v)

/-- The size of values that wait with their levels. -/
noncomputable def waitingSize : List (Json × Nat) → Nat
  | [] => 0
  | (v, _) :: waiting => sizeOf v + waitingSize waiting

@[simp] theorem waitingSize_append (es fs : List (Json × Nat)) :
    waitingSize (es ++ fs) = waitingSize es + waitingSize fs := by
  induction es with
  | nil => simp [waitingSize]
  | cons e es ih => simp [waitingSize, ih, Nat.add_assoc]

@[simp] theorem waitingSize_reverse (es : List (Json × Nat)) :
    waitingSize es.reverse = waitingSize es := by
  induction es with
  | nil => rfl
  | cons e es ih => simp [waitingSize, ih, Nat.add_comm]

/-- What is inside a container is smaller than the container. -/
theorem waitingSize_parts {v : Json} {parts : List Json} (h : v.parts? = some parts)
    (level : Nat) : waitingSize (parts.map (·, level)) < sizeOf v := by
  have hitems : ∀ vs : List Json, waitingSize (vs.map (·, level)) < sizeOf vs := by
    intro vs
    induction vs with
    | nil => simp [waitingSize]
    | cons v vs ih =>
      simp only [List.map_cons, waitingSize, List.cons.sizeOf_spec]
      omega
  have hmembers : ∀ ms : List (Text × Json),
      waitingSize ((ms.map Prod.snd).map (·, level)) < sizeOf ms := by
    intro ms
    induction ms with
    | nil => simp [waitingSize]
    | cons m ms ih =>
      obtain ⟨k, v⟩ := m
      simp only [List.map_cons, waitingSize, List.cons.sizeOf_spec, Prod.mk.sizeOf_spec]
      omega
  cases v with
  | scalar s => cases h
  | arr items =>
    cases h
    rw [Json.arr.sizeOf_spec]
    exact Nat.lt_add_left 1 (hitems parts)
  | obj members =>
    cases h
    rw [Json.obj.sizeOf_spec]
    exact Nat.lt_add_left 1 (hmembers members)

/-- Whether a container is at a level beyond `limit`, asked of values that wait with their levels.
The last one is asked first, and what is inside it waits one level deeper. -/
def exceeds (limit : Nat) : (waiting : List (Json × Nat)) → Bool
  | [] => false
  | (v, level) :: waiting =>
    match _h : v.parts? with
    | none => exceeds limit waiting
    | some parts =>
      if limit < level then true
      else exceeds limit ((parts.map (·, level + 1)).reverse ++ waiting)
termination_by waiting => waitingSize waiting
decreasing_by
  · have hpos : 0 < sizeOf v := by cases v <;> simp [Nat.one_add]
    simp only [waitingSize]
    omega
  · have hparts := waitingSize_parts _h (level + 1)
    rw [waitingSize_append, waitingSize_reverse, waitingSize]
    exact Nat.add_lt_add_right hparts _

/-- The value of a text in standard JSON that nests at most `maxDepth` deep. -/
def decode (t : Text) : Except Fault Json :=
  match decodeWith .refused t with
  | .error f => .error f
  | .ok v => if exceeds maxDepth [(v, 1)] then .error .tooDeep else .ok v

/-- The value of a stored text: constants for numbers that are not finite are read, and the depth
is not limited. -/
def decodeStored (t : Text) : Except Fault Json := decodeWith .allowed t

/-- The members of a text that decodes to an object. -/
def decodeObject? (t : Text) : Option (List (Text × Json)) :=
  match decode t with
  | .ok (.obj members) => some members
  | _ => none

end DesiredState.Json

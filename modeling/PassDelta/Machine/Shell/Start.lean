import PassDelta.Machine.Shell.Run
/-!
# Starting a shell

The words a shell is called with: options, and a script by itself, in a file or on the input.
-/

namespace PassDelta.Machine.Shell

structure Started where
  options : List Char
  isText : Bool
  fromInput : Bool
  rest : List Octets
  deriving DecidableEq, Repr

namespace Started

def setLetter (on : Bool) (c : Char) (s : Started) : Started :=
  { s with options := if on then s.options.filter (· ≠ c) ++ [c] else s.options.filter (· ≠ c) }

def read : List Octets → Started → Except Octets Started
  | ['-', '-'] :: rest, s => .ok { s with rest := rest }
  | ['-'] :: rest, s => .ok { s with rest := rest }
  | (sign :: c :: cs) :: rest, s =>
    if sign ≠ '-' ∧ sign ≠ '+' then .ok { s with rest := (sign :: c :: cs) :: rest }
    else
      let on := sign = '-'
      let known (x : Char) : Bool := x = 'c' || x = 's' || x = 'o' || x = 'l' || optionNames.any (·.2 = x)
      match (c :: cs).find? fun x => !known x with
      | some x => .error ("Illegal option ".toList ++ [sign, x])
      | none =>
        let s := (c :: cs).foldl (fun s x =>
          if x = 'c' then { s with isText := true }
          else if x = 's' then { s with fromInput := true }
          else if x = 'o' ∨ x = 'l' then s
          else s.setLetter on x) s
        if (c :: cs).contains 'o' then
          match rest with
          | name :: more =>
            match optionNames.lookup (String.ofList name) with
            | some x => read more (s.setLetter on x)
            | none => .error ("Illegal option ".toList ++ [sign] ++ "o ".toList ++ name)
          | [] => .ok s
        else read rest s
  | rest, s => .ok { s with rest := rest }

end Started

def blank (w : World) (call : Call) (dialect : Dialect) (options : List Char) (name : Octets)
    (positional : List Octets) : Shell :=
  { world := { w with next := w.next + 1 }, bindings := [], functions := [], aliases := [], name := name,
    positional := positional, status := 0, options := options, streams := call.streams, here := call.here, line := 1,
    number := w.next, self := w.next, jobs := [], latest := none, traps := [], flow := none, locals := [],
    speaker := none, loops := 0, tested := false, optionOffset := 0, lastCaptured := none, mask := call.mask,
    dialect := dialect, switches := [], statuses := [], callers := [], origin := [], nesting := 0, depth := 0,
    lastWord := [], dirs := [], readers := [], began := w.clock }

def usualSearch : Octets := "/usr/local/sbin:/usr/local/bin:/usr/sbin:/usr/bin:/sbin:/bin".toList

def fresh (w : World) (call : Call) (options : List Char) (name : Octets) (positional : List Octets) : Shell :=
  let given := call.environment.map fun v => (v.1, Variable.plain (some v.2) true false)
  let own (name : String) (text : Octets) : String × Variable := (name, .plain (some text) false false)
  let usual : List (String × Variable) := [
    ("PWD", .plain (some (placeText call.here)) true false), own "IFS" [' ', '\t', '\n'], own "OPTIND" ['1'],
    own "PPID" (digits (w.next - 1)), own "PS1" "# ".toList, own "PS2" "> ".toList, own "PS4" "+ ".toList]
  let named := usual.map Prod.fst
  let bindings := usual ++ given.filter (fun v => !named.contains v.1) ++
    if given.any (·.1 = "PATH") then [] else [own "PATH" usualSearch]
  { blank w call .plain options name positional with bindings := bindings }

def ending (s : Shell) : Ending × World :=
  (match s.flow with
    | some (.ended e) => e
    | _ => .exited s.status, s.world)

def runText (spawn : Spawn) (final : Bool) (text : Octets) (s : Shell) : Ending × World :=
  let work : Exec Unit := do
    runScript spawn maxDepth final 1 text
    closing spawn maxDepth
  ending (work.run s).2

def run (spawn : Spawn) (w : World) (call : Call) : Ending × World :=
  let refuse (text : Octets) : Ending × World :=
    let work : Exec Unit := do
      modify fun s => { s with line := 0 }
      complain text
      finish (.exited 2)
    ending (work.run (fresh w call [] call.name [])).2
  match Started.read call.args ⟨[], false, false, []⟩ with
  | .error text => refuse text
  | .ok s =>
    if s.isText then
      match s.rest with
      | [] => refuse "-c requires an argument".toList
      | script :: rest => runText spawn true script (fresh w call s.options (rest.headD call.name) rest.tail)
    else
      match (if s.fromInput then [] else s.rest) with
      | [] =>
        match call.streams.lookup 0 with
        | some n =>
          let (text, w) := w.readAll n
          runText spawn false text (fresh w call s.options call.name s.rest)
        | none => (.exited 0, w)
      | file :: rest =>
        match w.tree.readBytes call.here ⟨bytesOf file⟩ with
        | .ok contents => runText spawn false (octets contents) (fresh w call s.options file rest)
        | .error .eisdir => refuse (file ++ ": Is a directory".toList)
        | .error e => refuse ("cannot open ".toList ++ file ++ ": ".toList ++ pathWords e "No such file")

end PassDelta.Machine.Shell

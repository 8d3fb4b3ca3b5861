import PassDelta.Machine.Utility.Programs
import PassDelta.Machine.Shell.State
/-!
# Programs that start others

Programs that run another one in a changed environment, within a limit, or once for each part of their input.
-/

namespace PassDelta.Machine

namespace Utility

open Act

def become (spawn : Spawn) (call : Call) (w : World) (missing : Octets → IoError → Octets) : Ending × World :=
  let complain (e : IoError) (w : World) : Ending × World :=
    let text := missing call.name e ++ ": ".toList ++ octetsOfText (e.words ++ "\n")
    let w := match (call.streams.lookup 2).map fun n => w.say n text with
      | some (.ok w) => w
      | _ => w
    (.exited (if e = .enoent ∨ e = .enotdir then 127 else 126), w)
  match spawn w call with
  | (.ok e, w) => (e, w)
  | (.error e, w) => complain e w

def citedFor (call : Call) (word : Octets) : Octets := citedIn call.environment word

def settings : List Octets → List (String × Octets) × List Octets
  | [] => ([], [])
  | word :: rest =>
    match word.span (· ≠ '=') with
    | (name, _ :: value) => let (found, left) := settings rest; ((String.ofList name, value) :: found, left)
    | _ => ([], word :: rest)

def env (spawn : Spawn) (w : World) (call : Call) : Ending × World :=
  let complaint (act : Act Unit) : Ending × World := Act.run act w call
  let wordsIn (text : Octets) : List Octets := (text.splitOnP isBlankOctet).filter (· ≠ [])
  let rec go : Nat → List Octets → List (String × Octets) → Ending × World
    | 0, _, _ => (.exited 125, w)
    | fuel + 1, words, vars =>
      let without (name : Octets) : List (String × Octets) := vars.filter (·.1 ≠ String.ofList name)
      match words with
      | ['-'] :: rest => go fuel rest []
      | ['-', '-'] :: rest => finish rest vars
      | ('-' :: '-' :: name) :: rest =>
        if name = "ignore-environment".toList then go fuel rest []
        else complaint (misuse 125 ("unrecognized option '--".toList ++ name ++ ['\'']))
      | ('-' :: 'i' :: cs) :: rest => go fuel (if cs.isEmpty then rest else ('-' :: cs) :: rest) []
      | ['-', 'u'] :: name :: rest => go fuel rest (without name)
      | ['-', 'S'] :: text :: rest => go fuel (wordsIn text ++ rest) vars
      | ['-', c] :: rest =>
        if rest.isEmpty ∧ (c = 'u' ∨ c = 'S') then
          complaint (misuse 125 ("option requires an argument -- '".toList ++ [c, '\'']))
        else complaint (misuse 125 ("invalid option -- '".toList ++ [c, '\'']))
      | ('-' :: 'u' :: name) :: rest => go fuel rest (without name)
      | ('-' :: 'S' :: text) :: rest => go fuel (wordsIn text ++ rest) vars
      | ('-' :: c :: _) :: _ => complaint do
        grumble ("invalid option -- '".toList ++ [c, '\''])
        if isBlankOctet c then grumble "use -[v]S to pass options in shebang lines".toList
        fail 125
        put 2 ("Try '".toList ++ call.name ++ " --help' for more information.\n".toList)
      | words => finish words vars
  go (call.args.flatten.length + call.args.length + 2) call.args call.environment
where
  finish (words : List Octets) (vars : List (String × Octets)) : Ending × World :=
    let (set, rest) := settings words
    let vars := set.foldl (fun vars v =>
      if vars.any (·.1 = v.1) then vars.map fun x => if x.1 = v.1 then v else x else vars ++ [v]) vars
    match rest with
    | [] => Act.run (do print (vars.flatMap fun v => v.1.toList ++ ['='] ++ v.2 ++ ['\n'])) w call
    | name :: args =>
      become spawn { call with name := name, args := args, environment := vars } w
        fun name _ => call.name ++ ": ".toList ++ citedFor call name

def timeout (spawn : Spawn) (w : World) (call : Call) : Ending × World :=
  let complaint (act : Act Unit) : Ending × World := Act.run act w call
  let rec go : Nat → Nat → List Octets → Ending × World
    | 0, _, _ => (.exited 125, w)
    | fuel + 1, signal, words =>
      match words with
      | ['-', 's'] :: name :: rest => go fuel ((Shell.signal? name).getD 15) rest
      | ['-', 'k'] :: _ :: rest => go fuel signal rest
      | ('-' :: '-' :: _) :: rest => go fuel signal rest
      | word :: name :: args =>
        match duration? word with
        | none => complaint do misuse 125 ("invalid time interval ".toList ++ (← cited word))
        | some span =>
          let limit := w.clock + span
          let inner := if span = 0 then w.deadline else some (match w.deadline with
            | some d => min d limit
            | none => limit)
          let (e, w') := become spawn { call with name := name, args := args } { w with deadline := inner }
            fun name _ => call.name ++ ": failed to run command ".toList ++ citedFor call name
          let w' := { w' with deadline := w.deadline }
          match e with
          | .late =>
            if w.deadline.any (· ≤ limit) then (.late, w')
            else (if signal = 9 then .killed 9 else .exited 124, { w' with clock := limit })
          | e => (e, w')
      | _ => complaint do
        fail 125
        put 2 ("Try '".toList ++ call.name ++ " --help' for more information.\n".toList)
  go (call.args.length + 2) 15 call.args

def inputWords : Nat → Option Octets → Octets → List Octets
  | 0, word, _ => word.toList
  | _ + 1, word, [] => word.toList.map List.reverse
  | fuel + 1, word, c :: rest =>
    if c = ' ' ∨ c = '\t' ∨ c = '\n' then
      match word with
      | some cs => cs.reverse :: inputWords fuel none rest
      | none => inputWords fuel none rest
    else if c = '\'' ∨ c = '"' then
      let body := rest.takeWhile (· ≠ c)
      inputWords fuel (some (body.reverse ++ word.getD [])) (rest.drop (body.length + 1))
    else match c, rest with
      | '\\', d :: more => inputWords fuel (some (d :: word.getD [])) more
      | c, rest => inputWords fuel (some (c :: word.getD [])) rest

def chunks {α : Type} (n : Nat) : Nat → List α → List (List α)
  | 0, _ => []
  | _ + 1, [] => []
  | fuel + 1, xs => xs.take n :: chunks n fuel (xs.drop n)

def replaceMark (mark text : Octets) : Nat → Octets → Octets
  | 0, cs => cs
  | _ + 1, [] => []
  | fuel + 1, c :: cs =>
    if mark ≠ [] ∧ mark.isPrefixOf (c :: cs) then text ++ replaceMark mark text fuel ((c :: cs).drop mark.length)
    else c :: replaceMark mark text fuel cs

structure Gathering where
  atMost : Option Nat
  mark : Option Octets
  separator : Option Char
  evenEmpty : Bool
  command : List Octets

def Gathering.read : Nat → List Octets → Gathering → Gathering
  | 0, _, g => g
  | fuel + 1, words, g =>
    match words with
    | ['-', 'n'] :: n :: rest => read fuel rest { g with atMost := some (valueIn 10 n) }
    | ['-', 'L'] :: n :: rest => read fuel rest { g with atMost := some (valueIn 10 n) }
    | ['-', 'I'] :: mark :: rest => read fuel rest { g with mark := some mark }
    | ['-', 'd'] :: d :: rest => read fuel rest { g with separator := (unescape .alone false (d.length + 1) d).1.head? }
    | ['-', '0'] :: rest => read fuel rest { g with separator := some (Char.ofNat 0) }
    | ['-', 'r'] :: rest => read fuel rest { g with evenEmpty := false }
    | ['-', 't'] :: rest => read fuel rest g
    | ['-', 'P'] :: _ :: rest => read fuel rest g
    | ('-' :: 'n' :: n) :: rest => read fuel rest { g with atMost := some (valueIn 10 n) }
    | ('-' :: 'L' :: n) :: rest => read fuel rest { g with atMost := some (valueIn 10 n) }
    | ('-' :: 'I' :: mark) :: rest => read fuel rest { g with mark := some mark }
    | ('-' :: 'd' :: d) :: rest =>
      read fuel rest { g with separator := (unescape .alone false (d.length + 1) d).1.head? }
    | ('-' :: 'P' :: _) :: rest => read fuel rest g
    | words => { g with command := words }

/-- Starts a program with words of the input as arguments, as often as it takes. -/
def xargs (spawn : Spawn) (w : World) (call : Call) : Ending × World :=
  let g := Gathering.read (call.args.length + 1) call.args ⟨none, none, none, true, []⟩
  let command := if g.command.isEmpty then ["echo".toList] else g.command
  let (text, w) := match call.streams.lookup 0 with
    | some n => w.readAll n
    | none => ([], w)
  let words := match g.separator, g.mark with
    | some c, _ => if text.isEmpty then [] else (if text.getLast? = some c then text.dropLast else text).splitOn c
    | none, some _ =>
      ((plainLines text).map fun (line : Octets) => line.dropWhile fun c => c = ' ' || c = '\t').filter (· ≠ [])
    | none, none => inputWords (text.length + 1) none text
  let calls : List (List Octets) := match g.mark with
    | some mark => words.map fun word => command.map fun (part : Octets) => replaceMark mark word (part.length + 1) part
    | none =>
      if words.isEmpty then if g.evenEmpty then [command] else []
      else (chunks (max 1 (g.atMost.getD 5000)) (words.length + 1) words).map fun part => command ++ part
  let (null, w) := w.addChannel (.device .null)
  let streams := (0, null) :: call.streams.filter (·.1 ≠ 0)
  let tell (text : Octets) (w : World) : World :=
    match (call.streams.lookup 2).map fun n => w.say n ("xargs: ".toList ++ text ++ ['\n']) with
    | some (.ok w) => w
    | _ => w
  let rec go : List (List Octets) → Nat → World → Ending × World
    | [], status, w => (.exited status, w)
    | words :: rest, status, w =>
      let name := words.headD []
      match spawn w { call with name := name, args := words.tail, streams := streams } with
      | (.ok (.exited n), w) =>
        if n = 255 then (.exited 124, tell (name ++ ": exited with status 255; aborting".toList) w)
        else go rest (if n = 0 then status else 123) w
      | (.ok (.killed n), w) => (.exited 125, tell (name ++ ": terminated by signal ".toList ++ digitsOf n) w)
      | (.ok .late, w) => (.late, w)
      | (.error e, w) =>
        (.exited (if e = .enoent then 127 else 126), tell (name ++ ": ".toList ++ octetsOfText e.words) w)
  go calls 0 w

def prefixed (valued : List Char) (spawn : Spawn) (w : World) (call : Call) : Ending × World :=
  let rec rest : List Octets → List Octets
    | ('-' :: c :: cs) :: more =>
      match cs.isEmpty && valued.contains c, more with
      | true, _ :: more => rest more
      | _, more => rest more
    | words => words
  match rest call.args with
  | [] => (.exited 0, w)
  | name :: args =>
    become spawn { call with name := name, args := args } w fun name _ => call.name ++ ": ".toList ++ citedFor call name

end Utility

end PassDelta.Machine

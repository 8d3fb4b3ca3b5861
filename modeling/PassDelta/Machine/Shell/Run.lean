import PassDelta.Machine.Shell.Process
/-!
# Running scripts

Commands change the state of a shell until something ends it: an exit, a signal, or the deadline. Whatever runs in
a process of its own works on a copy of the state of which only the world comes back. A loop that goes on for too
long counts as late. Programs that the shell does not know itself are spawned.
-/

namespace PassDelta.Machine.Shell

def menuText (words : List Octets) : Octets :=
  let size := words.length
  let numberWidth := (digits size).length
  let widest := (words.map List.length).foldl max 0 + numberWidth + 4
  let cols := max 1 (80 / widest)
  let rows := (size + cols - 1) / cols
  let cols := if rows = 0 then 1 else (size + rows - 1) / rows
  let (rows, cols) := if rows = 1 then (cols, 1) else (rows, cols)
  let cell (i : Nat) : Octets :=
    let n := digits (i + 1)
    List.replicate (numberWidth - n.length) ' ' ++ n ++ ") ".toList ++ (words[i]?).getD []
  ((List.range rows).map fun r =>
    let here := (List.range cols).map fun c => r + c * rows
    let row := (here.filter (· < size)).foldl (fun (line : Octets × Nat) i =>
      let text := cell i
      let at_ := line.2
      (line.1 ++ List.replicate (at_ - line.1.length) ' ' ++ text, at_ + widest)) ([], 0)
    row.1 ++ ['\n']).flatten

mutual

/-- Runs a command. `final` marks the last one of a process that has nothing else to do. -/
def exec (spawn : Spawn) (fuel : Nat) (final : Bool) (c : Command) : Exec Unit :=
  match fuel with
  | 0 => finish overflow
  | fuel + 1 => do
    let within : Within := ⟨capture spawn fuel, stream spawn fuel⟩
    let run (final : Bool) (c : Command) : Exec Unit := exec spawn fuel final c
    if (← get).has 'n' then return ()
    let open_ := (← get).readers
    match c with
    | .simple line assignments words redirects =>
      modify fun s => { s with line := line }
      heed spawn fuel 65
      if (← get).isRich then execGiven spawn fuel final assignments words redirects
      else execSimple spawn fuel final assignments words redirects
      closeReaders spawn fuel open_.length
      heedSignals spawn fuel
      settle spawn fuel
    | .pipeline parts =>
      let s ← get
      let es ← pipe (fun c => do
        exec spawn fuel true c
        closing spawn fuel) parts s.world.clock s.world.clock none []
      modify fun t => { t with world := t.world.dropChannels s.world.next }
      heedEnding true (pipeEnding s es)
      closeReaders spawn fuel open_.length
      heedSignals spawn fuel
      settle spawn fuel
      modify fun s => { s with statuses := es.reverse.map statusOf }
    | .both first second =>
      testing (run false first)
      if (← isRunning) ∧ (← get).status = 0 then run final second
    | .either first second =>
      testing (run false first)
      if (← isRunning) ∧ (← get).status ≠ 0 then run final second
    | .inverse c =>
      testing (run false c)
      if ← isRunning then setStatus (if (← get).status = 0 then 1 else 0)
    | .background c =>
      let s ← get
      let (null, w) := s.world.addChannel (.device .null)
      let job := w.next
      set { s with world := { w with deadline := none } }
      let e ← inSubshell do
        modify fun s => bind s 0 (some null)
        exec spawn fuel true c
        closing spawn fuel
      modify fun t =>
        { t with
          world := { t.world with clock := s.world.clock, deadline := s.world.deadline }
          jobs := t.jobs ++ [⟨job, t.world.clock, e⟩]
          latest := some job
          status := 0 }
    | .list body => inTurn run final body
    | .subshell line body =>
      modify fun s => { s with line := line }
      let e ← inSubshell do
        modify fun s => if s.isRich then { s with loops := 0 } else s
        inTurn run true body
        closing spawn fuel
      if final ∧ (← get).traps.isEmpty then finish e
      else
        heedEnding true e
        heedSignals spawn fuel
        settle spawn fuel
    | .redirected line c redirects =>
      modify fun s => { s with line := line }
      let s ← get
      if ← redirect within redirects then run false c
      restore (boundStreams s redirects) s.world.next
      closeReaders spawn fuel open_.length
    | .choice condition yes no =>
      testing (inTurn run false condition)
      if ← isRunning then
        if (← get).status = 0 then inTurn run final yes
        else if no.isEmpty then setStatus 0
        else inTurn run final no
    | .loop negated condition body =>
      inLoop (repeating (fun last => do
        testing (inTurn run false condition)
        if !(← isRunning) then return (← loopGoesOn, last)
        if ((← get).status = 0) == negated then
          setStatus last
          return (false, last)
        inTurn run false body
        let last := (← get).status
        return (← loopGoesOn, last)) patience 0)
    | .each line name words written body =>
      modify fun s => { s with line := line }
      let fields ← match words with
        | none => pure (some (← get).positional)
        | some ws => do pure ((← expandOr (ws.mapM (fieldsOf within))).map List.flatten)
      match fields with
      | none => pure ()
      | some fields =>
        setStatus 0
        inLoop do
          for field in fields do
            modify fun s => if s.isRich then { s with line := line } else s
            show_ spawn fuel ("for ".toList ++ name.toList ++ " in ".toList ++ written) true
            if (← get).isRich then
              if !(← giveTo name.toList field) then
                setStatus 1
                break
            else assignOr name field
            if !(← isRunning) then break
            inTurn run false body
            if !(← loopGoesOn) then break
      closeReaders spawn fuel open_.length
    | .menu line name words written body =>
      modify fun s => { s with line := line }
      let fields ← match words with
        | none => pure (some (← get).positional)
        | some ws => do pure ((← expandOr (ws.mapM (fieldsOf within))).map List.flatten)
      match fields with
      | none => pure ()
      | some fields =>
        show_ spawn fuel ("select ".toList ++ name.toList ++ " in ".toList ++ written) true
        if !fields.isEmpty then
          let _ ← say 2 (menuText fields)
          inLoop (repeating (fun _ => do
            let _ ← say 2 (((← get).value? "PS3").getD "#? ".toList)
            let r ← richRead ["REPLY".toList]
            if r.status ≠ 0 then
              let _ ← say 1 ['\n']
              setStatus 1
              return (false, 1)
            let answer := (← get).value "REPLY"
            if answer.isEmpty then
              let _ ← say 2 (menuText fields)
              return (true, 0)
            let chosen := (decimalNumber? answer).bind fun n => if 1 ≤ n then fields[n.toNat - 1]? else none
            let _ ← giveTo name.toList (chosen.getD [])
            inTurn run false body
            return (← loopGoesOn, 0)) patience 0)
    | .select line subject written arms =>
      modify fun s => { s with line := line }
      show_ spawn fuel ("case ".toList ++ written ++ " in".toList) true
      match ← expandOr (textOf within subject) with
      | none => pure ()
      | some text =>
        setStatus 0
        let mut searches := true
        let mut goesOn := true
        for arm in arms do
          match arm with
          | .mk patterns body after =>
            if goesOn then
              let mut found := !searches
              if searches then
                for p in patterns do
                  if !found then
                    if let some globs ← expandOr (globsOf within false p) then found := fits (← get) globs text
              if !(← isRunning) then break
              if found then
                inTurn run (final && after = .stop) body
                if !(← isRunning) then break
                match after with
                | .stop => goesOn := false
                | .next => searches := false
                | .search => searches := true
      closeReaders spawn fuel open_.length
    | .define name body =>
      modify fun s =>
        let source := if s.callers.isEmpty then "environment".toList else s.title
        { s with functions := (name, ⟨body, source⟩) :: s.functions.filter (·.1 ≠ name), status := 0 }
    | .check line c =>
      modify fun s => { s with line := line }
      heed spawn fuel 65
      match ← expandOr (checkStatus within (fun text => show_ spawn fuel text false) c) with
      | some n => setStatus n
      | none => pure ()
      closeReaders spawn fuel open_.length
      settle spawn fuel
    | .compute line body =>
      modify fun s => { s with line := line }
      heed spawn fuel 65
      let n ← computed spawn fuel body
      if ← isRunning then setStatus (if n.getD 0 = 0 then 1 else 0)
      settle spawn fuel
    | .count line first condition step body =>
      modify fun s => { s with line := line }
      if (← computed spawn fuel first).isSome then
        setStatus 0
        inLoop (repeating (fun last => do
          modify fun s => { s with line := line }
          let isBlank := (unquoted condition).all isBlankOctet && condition.length = (unquoted condition).length
          let n ← if isBlank then pure (some 1) else computed spawn fuel condition
          match n with
          | none =>
            if ← isRunning then setStatus 1
            return (false, 1)
          | some 0 =>
            setStatus last
            return (false, last)
          | some _ =>
            inTurn run false body
            let last := (← get).status
            let goesOn ← loopGoesOn
            if goesOn then
              modify fun s => { s with line := line }
              if (← computed spawn fuel step).isNone then
                if ← isRunning then setStatus 1
                return (false, 1)
            return (goesOn, last)) patience 0)
      else if ← isRunning then setStatus 1
    | .timed c =>
      let start := (← get).world.clock
      run false c
      let span := (← get).world.clock - start
      let seconds := span / tenTo 9
      let thousandths := (fixedPlaces 3 (span % tenTo 9 / tenTo 6)).toList.drop 1
      let line (name : String) (minutes seconds : Nat) (rest : Octets) : Octets :=
        name.toList ++ ['\t'] ++ digits minutes ++ ['m'] ++ digits seconds ++ rest ++ "s\n".toList
      let _ ← say 2 (['\n'] ++ line "real" (seconds / 60) (seconds % 60) thousandths ++
        line "user" 0 0 ".000".toList ++ line "sys" 0 0 ".000".toList)

def computed (spawn : Spawn) (fuel : Nat) (body : Word) : Exec (Option Int) :=
  match fuel with
  | 0 => do
    finish overflow
    return none
  | fuel + 1 => do
    match ← expandOr (expandPieces ⟨capture spawn fuel, stream spawn fuel⟩ true body) with
    | none => return none
    | some atoms =>
      let text := wholeText atoms
      show_ spawn fuel ("(( ".toList ++ text ++ " ))".toList) false
      match ← (valueOfSum text).run with
      | .ok n => return some n
      | .error (.told fault) =>
        complain ("((: ".toList ++ fault)
        return none
      | .error (.readonly name) =>
        complain ((Failure.readonly name).message .rich)
        return none
      | .error f =>
        give (.ofReckoning f)
        return none

/-- Shows a command before it is run, if that was asked for; in the plain shell those that are only for the rich one
are not. -/
def show_ (spawn : Spawn) (fuel : Nat) (text : Octets) (richOnly : Bool) : Exec Unit :=
  match fuel with
  | 0 => pure ()
  | fuel + 1 => do
    let s ← get
    if s.has 'x' ∧ s.flow.isNone ∧ (s.isRich ∨ !richOnly) then
      let sign := (s.value? "PS4").getD (if s.isRich then [] else "+ ".toList)
      let sign ←
        if sign.all fun c => c ≠ '$' && c ≠ '`' && c ≠ '\\' then pure sign
        else do
          let inside : Parse.Inside := ⟨Parse.nested (8 * sign.length + 16) true, Parse.nested (8 * sign.length + 16) false⟩
          match (Parse.scanLoose inside (sign.length + 1)).run (.ofText (manner s) s.line sign) with
          | .error _ => pure sign
          | .ok (w, _) =>
            setOption false 'x'
            let atoms ← (expandPieces ⟨capture spawn fuel, stream spawn fuel⟩ false w).run
            setOption true 'x'
            setStatus s.status
            pure (match atoms with
              | .ok atoms => wholeText atoms
              | .error _ => sign)
      let lead := if s.isRich then List.replicate s.depth (sign.headD ' ') else []
      let s ← get
      match s.streams.lookup 2 with
      | some n => match s.world.say n (lead ++ sign ++ text ++ ['\n']) with
        | .ok w => set { s with world := w }
        | .error _ => pure ()
      | none => pure ()

/-- Takes note of the status of a command: an action for failures is run, and the script ends if it is to. -/
def settle (spawn : Spawn) (fuel : Nat) : Exec Unit :=
  match fuel with
  | 0 => pure ()
  | fuel + 1 => do
    let s ← get
    if s.isRich then
      set { s with statuses := [s.status] }
      if s.status ≠ 0 ∧ !s.tested ∧ s.flow.isNone then heed spawn fuel 66
    checkFailure

def heed (spawn : Spawn) (fuel : Nat) (event : Nat) : Exec Unit :=
  match fuel with
  | 0 => pure ()
  | fuel + 1 => do
    let s ← get
    match s.traps.lookup event with
    | none => pure ()
    | some action =>
      set { s with traps := s.traps.filter (·.1 ≠ event) }
      runScript spawn fuel false s.line action
      modify fun t => { t with line := s.line, statuses := s.statuses }
      modify fun t => if t.traps.any (·.1 = event) then t else { t with traps := (event, action) :: t.traps }
      if ← isRunning then setStatus s.status

/-- Runs a simple command: words are expanded first, then streams are led elsewhere, then variables get values. -/
def execSimple (spawn : Spawn) (fuel : Nat) (final : Bool) (assignments : List Assignment) (words : List Word)
    (redirects : List Redirect) : Exec Unit :=
  match fuel with
  | 0 => finish overflow
  | fuel + 1 => do
    let within : Within := ⟨capture spawn fuel, stream spawn fuel⟩
    modify fun s => { s with lastCaptured := none }
    match ← expandOr (commandFields within isMarking [] words) with
    | none => pure ()
    | some fields =>
      let s ← get
      let name := fields.headD []
      let key := String.ofList name
      let special := !fields.isEmpty && isSpecial key
      let ok ← redirect within redirects
      if !ok then
        if special ∧ (← isRunning) then finish (.exited 2)
      else
        let values (keeps : Bool) : Exec (List (String × Octets)) := do
          let mut done := []
          for a in assignments do
            match a with
            | .mk x _ _ w =>
              if ← isRunning then
                if let some text ← expandOr (valueOf within w) then
                  if keeps then assignOr x text
                  done := done ++ [(x, text)]
          return done
        let found ← values (special || fields.isEmpty)
        let shown := found.map (fun v => v.1.toList ++ ['='] ++ v.2) ++ fields
        show_ spawn fuel ([' '].intercalate shown) false
        if ← isRunning then
          match fields with
          | [] => setStatus ((← get).lastCaptured.getD 0)
          | name :: args =>
            if special ∨ found.isEmpty then call spawn fuel final true name args
            else withVariables found (call spawn fuel final true name args)
      if !(key = "exec" && fields.length = 1 && ok) then restore (boundStreams s redirects) s.world.next

/-- Runs a simple command of the rich shell: words are expanded first, then variables get values, then streams are led
elsewhere. -/
def execGiven (spawn : Spawn) (fuel : Nat) (final : Bool) (assignments : List Assignment) (words : List Word)
    (redirects : List Redirect) : Exec Unit :=
  match fuel with
  | 0 => finish overflow
  | fuel + 1 => do
    let within : Within := ⟨capture spawn fuel, stream spawn fuel⟩
    modify fun s => { s with lastCaptured := none }
    match ← expandOr (givenWords within words) with
    | none => pure ()
    | some givens =>
      let fields := givens.map Given.text
      if fields.isEmpty then
        for a in assignments do
          if ← isRunning then
            match ← expandOr (Setting.ofAssignment within a) with
            | none => pure ()
            | some x =>
              show_ spawn fuel x.traced false
              let _ ← expandOr x.apply
        let s ← get
        if s.flow.isNone then
          let ok ← redirect within redirects
          restore (boundStreams s redirects) s.world.next
          if ok ∧ (← isRunning) then setStatus ((← get).lastCaptured.getD 0)
        modify fun s => { s with lastWord := [] }
      else
        let mut found : List (String × Octets) := []
        for a in assignments do
          if ← isRunning then
            match ← expandOr (Setting.ofAssignment within a) with
            | none => pure ()
            | some x =>
              show_ spawn fuel x.traced false
              let s ← get
              if s.isReadonly x.name then complain ((Failure.readonly x.name).message .rich)
              else match x.content with
                | .text t =>
                  let v := (s.binding? x.name).getD (.plain none false false)
                  if let some text ← expandOr (Setting.combined v v.value x.appends t) then
                    found := found ++ [(x.name, text)]
                | .row .. => pure ()
        if ← isRunning then
          for g in givens do
            match g with
            | .setting x =>
              match x.content with
              | .row .. => show_ spawn fuel (x.title ++ "=(".toList ++ [' '].intercalate (shownItems x) ++ [')']) false
              | .text _ => pure ()
            | .word _ => pure ()
          show_ spawn fuel ([' '].intercalate (givens.map Given.traced)) false
          let s ← get
          let ok ← redirect within redirects
          let name := fields.headD []
          if ok ∧ (← isRunning) then
            let act := callGiven spawn fuel final true (givens.headD (.word [])) givens.tail
            if found.isEmpty then act else withVariables found act
          modify fun s => { s with lastWord := fields.getLastD [] }
          if !(name = "exec".toList && fields.length = 1 && ok) then restore (boundStreams s redirects) s.world.next
where
  shownItems (x : Setting) : List Octets :=
    match x.content with
    | .row _ items => items.map fun (key, v) => (key.map fun k => ['['] ++ k ++ "]=".toList).getD [] ++ apostrophed v
    | .text _ => []

def enter (spawn : Spawn) (fuel : Nat) (key : String) (f : Function) (args : List Octets) : Exec Unit :=
  match fuel with
  | 0 => finish overflow
  | fuel + 1 => do
    let s ← get
    let inherits (t : Nat × Octets) : Bool := !s.isRich || (t.1 ≠ 66 || s.has 'E') && ((t.1 ≠ 65 && t.1 ≠ 67) || s.has 'T')
    set { s with
      positional := args, loops := 0, locals := [] :: s.locals, callers := ⟨key, f.source, s.line⟩ :: s.callers
      traps := s.traps.filter inherits }
    if !s.isRich then modify fun t => { t with callers := s.callers }
    exec spawn fuel false f.body
    if (← get).flow = some .back then modify fun t => { t with flow := none }
    if s.isRich then heed spawn fuel 67
    leaveScope
    modify fun t =>
      let kept := (s.traps.filter fun x => !inherits x).filter fun x => !t.traps.any (·.1 = x.1)
      { t with
        positional := s.positional, loops := s.loops, callers := s.callers, traps := kept ++ t.traps
        line := if s.isRich then s.line else t.line }

def sourceFile (spawn : Spawn) (fuel : Nat) (path text : Octets) (args : List Octets) : Exec Unit :=
  match fuel with
  | 0 => finish overflow
  | fuel + 1 => do
    let s ← get
    let frame : Frame := ⟨"source", path, s.line⟩
    let inner := if args.isEmpty then s.positional else args
    set { s with callers := frame :: s.callers, positional := inner, depth := s.depth + 1, origin := [] }
    runScript spawn fuel false 1 text
    modify fun t =>
      { t with
        callers := s.callers, line := s.line, depth := s.depth, origin := s.origin
        positional := if t.positional = inner then s.positional else t.positional
        flow := if t.flow = some .back then none else t.flow }

/-- Runs a command of the rich shell by its name: a function, one of the shell itself, or a program. -/
def callGiven (spawn : Spawn) (fuel : Nat) (final functions : Bool) (name : Given) (args : List Given) : Exec Unit :=
  match fuel with
  | 0 => finish overflow
  | fuel + 1 => do
    let name := name.text
    let key := String.ofList name
    let words := args.map Given.text
    let s ← get
    let again (functions : Bool) (args : List Given) : Exec Unit :=
      match args with
      | [] => setStatus 0
      | g :: rest => callGiven spawn fuel final functions g rest
    match (if functions then s.functions.lookup key else none) with
    | some f => enter spawn fuel key f words
    | none =>
      if ["declare", "typeset", "local", "export", "readonly"].contains key then
        if key = "export" ∨ key = "readonly" then
          for g in args do
            match (match g with
              | .setting x => some x
              | .word w => Setting.ofText? w) with
            | some x => show_ spawn fuel x.traced false
            | none => pure ()
        speaking name (do deliverReply name (← declareBy key args))
      else match key with
        | "eval" =>
          let words := if words.head? = some "--".toList then words.tail else words
          modify fun t => { t with depth := t.depth + 1, origin := "eval: ".toList }
          runScript spawn fuel false s.line ([' '].intercalate words)
          modify fun t => { t with line := s.line, depth := s.depth, origin := s.origin }
        | "exec" =>
          match execOptions words with
          | .error c => speaking name do
            let _ ← misused "exec" (['-', c] ++ ": invalid option".toList)
            setStatus 2
          | .ok [] => setStatus 0
          | .ok (program :: rest) => speaking name (replace spawn program rest)
        | "command" =>
          match richLetters "pVv".toList [] (words.flatten.length + words.length + 1) words with
          | .error text => speaking name (do setStatus (← misused "command" text).status)
          | .ok (found, rest) =>
            if found.any (·.1 = 'v') then speaking name (do deliverReply name (← tellMeanings false rest))
            else if found.any (·.1 = 'V') then speaking name (do deliverReply name (← tellMeanings true rest))
            else again false (args.drop (words.length - rest.length))
        | "builtin" =>
          let args := if words.head? = some "--".toList then args.tail else args
          match args with
          | [] => setStatus 0
          | g :: _ =>
            if isRichBuiltin (String.ofList g.text) then again false args
            else speaking name do
              complain (g.text ++ ": not a shell builtin".toList)
              setStatus 1
        | "type" => speaking name (do deliverReply name (← richType words))
        | _ =>
          if key = "." ∨ key = "source" then
            match words with
            | [] => speaking name do
              complain "filename argument required".toList
              tellUsage key
              setStatus 2
            | file :: rest =>
              match sourceText s file with
              | .error text =>
                complain text
                setStatus 1
              | .ok (path, text) => sourceFile spawn fuel path text rest
          else match richBuiltins.lookup key with
            | some act => speaking name (do deliverReply name (← act words))
            | none => runProgram spawn final name words
where
  /-- The words behind the options of a command that puts another one in the place of the shell. -/
  execOptions : List Octets → Except Char (List Octets)
    | ['-', '-'] :: rest => .ok rest
    | ['-', 'a'] :: _ :: rest => execOptions rest
    | ('-' :: c :: cs) :: rest =>
      match (c :: cs).find? fun x => x ≠ 'c' && x ≠ 'l' with
      | some x => .error x
      | none => execOptions rest
    | words => .ok words

/-- Runs a command by its name: a special one of the shell, a function, another one of the shell, or a program. -/
def call (spawn : Spawn) (fuel : Nat) (final functions : Bool) (name : Octets) (args : List Octets) : Exec Unit :=
  match fuel with
  | 0 => finish overflow
  | fuel + 1 => do
    let key := String.ofList name
    let s ← get
    match (if functions ∧ !isSpecial key then s.functions.lookup key else none) with
    | some f => enter spawn fuel key f args
    | none =>
      match key with
      | "eval" =>
        let text := [' '].intercalate args
        speaking name (runScript spawn fuel false 1 text)
        modify fun t => { t with line := s.line }
      | "." =>
        match args with
        | [] => setStatus 0
        | file :: _ =>
          match sourceText s file with
          | .error text => speaking name (abandon 2 text)
          | .ok (path, text) =>
            modify fun t => { t with tested := false }
            speaking path (runScript spawn fuel false 1 text)
            modify fun t => { t with line := s.line, tested := s.tested }
            if (← get).flow = some .back then modify fun t => { t with flow := none }
      | "exec" =>
        match args with
        | [] => setStatus 0
        | program :: rest => speaking name (replace spawn program rest)
      | "command" =>
        match args with
        | [] => setStatus 0
        | ['-', 'v'] :: names => deliverReply name (locateName s (names.headD []))
        | ['-', 'V'] :: names => speaking name (do deliverReply name (← typeOf names))
        | ['-', 'p'] :: program :: rest => call spawn fuel final false program rest
        | program :: rest => call spawn fuel final false program rest
      | "type" => speaking name (do deliverReply name (← typeOf args))
      | _ =>
        match builtins.lookup key with
        | some act => speaking name (do deliverReply name (← act args))
        | none => runProgram spawn final name args

def runScript (spawn : Spawn) (fuel : Nat) (final : Bool) (line : Nat) (text : Octets) : Exec Unit :=
  match fuel with
  | 0 => finish overflow
  | fuel + 1 => do
    let run (isLast : Bool) (commands : List Command) : Exec Unit :=
      inTurn (fun final c => exec spawn fuel final c) (final && isLast) commands
    eachLine run text line (text.length + 1) false (.ofText (manner (← get)) line text)

/-- What commands print, run in a process of their own. In the rich shell the contents of a file can be told by its
name alone. -/
def capture (spawn : Spawn) (fuel : Nat) (body : List Command) : Exec Octets :=
  match fuel with
  | 0 => do
    finish overflow
    return []
  | fuel + 1 => do
    let s ← get
    let (out, w) := s.world.addChannel (.sink [] false)
    set { s with world := w }
    let e ← inSubshell do
      modify fun s =>
        let s := { bind s 1 (some out) with tested := false, depth := s.depth + 1 }
        if s.isRich ∧ !s.switches.contains "inherit_errexit" then { s with options := s.options.filter (· ≠ 'e') } else s
      match (← get).isRich, body with
      | true, [.simple _ [] [] [(0, .file .read w)]] =>
        match ← expandOr (targetPath ⟨capture spawn fuel, stream spawn fuel⟩ w) with
        | none => pure ()
        | some path =>
          match leadTo (← get) 0 .read path with
          | .error text =>
            complain text
            setStatus 1
          | .ok s =>
            set s
            match s.streams.lookup 0 with
            | some n =>
              let (text, w) := s.world.readAll n
              set { s with world := w }
              let _ ← say 1 text
              setStatus 0
            | none => pure ()
      | _, _ => inTurn (fun final c => exec spawn fuel final c) true body
      closing spawn fuel
    let t ← get
    let parts := t.world.written out
    let latest := parts.foldl (fun n p => max n p.1) 0
    set { t with
      world := (t.world.waitUntil latest).dropChannels out, status := statusOf e, lastCaptured := some (statusOf e),
      line := s.line }
    if e = .late then finish .late
    checkTime
    heedDeadly
    return (parts.map Prod.snd).flatten

/-- The path of a stream from which the output of commands is read, or to which their input is written. -/
def stream (spawn : Spawn) (fuel : Nat) (reads : Bool) (body : List Command) : Exec Octets :=
  match fuel with
  | 0 => do
    finish overflow
    return []
  | fuel + 1 => do
    let s ← get
    let n := ((List.range 60).map fun i => 63 - i).find? (fun i => !s.streams.any (·.1 = i)) |>.getD 3
    let channel ← if reads then do
        let text ← capture spawn fuel body
        pure (Channel.source [((← get).world.clock, text)] (← get).world.clock)
      else pure (.sink [] false)
    let place : Place := ["dev", "fd", toString n].map Text.encode
    modify fun t =>
      let t := connect { t with world := { t.world with tree := t.world.tree.put place (.device (.stream n)) } } n channel
      { t with
        status := s.status, lastCaptured := s.lastCaptured
        readers := (n, if reads then [] else body) :: t.readers }
    return "/dev/fd/".toList ++ digits n

/-- Lets go of the streams to commands until so many are left. Commands that wait for what was written are run. -/
def closeReaders (spawn : Spawn) (fuel : Nat) (count : Nat) : Exec Unit :=
  match fuel with
  | 0 => pure ()
  | fuel + 1 => do
    let s ← get
    match s.readers with
    | [] => pure ()
    | (n, body) :: rest =>
      if count < s.readers.length then
        let place : Place := ["dev", "fd", toString n].map Text.encode
        let written := match s.streams.lookup n with
          | some id => s.world.written id
          | none => []
        let (input, w) := s.world.addChannel (.source written s.world.clock)
        set { bind { s with world := { w with tree := w.tree.remove place } } n none with readers := rest }
        if !body.isEmpty then
          let _ ← inSubshell do
            modify fun s => bind s 0 (some input)
            inTurn (fun final c => exec spawn fuel final c) true body
            closing spawn fuel
        closeReaders spawn fuel count

def closing (spawn : Spawn) (fuel : Nat) : Exec Unit :=
  match fuel with
  | 0 => pure ()
  | fuel + 1 => do
    let s ← get
    match s.traps.lookup 0, s.flow with
    | none, _ => pure ()
    | some _, some (.ended (.killed _)) => pure ()
    | some _, some (.ended .late) => pure ()
    | some action, flow =>
      let status := match flow with
        | some (.ended (.exited n)) => n
        | _ => s.status
      set { s with traps := s.traps.filter (·.1 ≠ 0), flow := none, status := status }
      runScript spawn fuel false 1 action
      if ← isRunning then finish (.exited status)

def heedSignals (spawn : Spawn) (fuel : Nat) : Exec Unit :=
  match fuel with
  | 0 => pure ()
  | fuel + 1 => do
    let s ← get
    let mine := (s.world.signals.filter (·.1 = s.self)).map Prod.snd
    if !mine.isEmpty then
      set { s with world := { s.world with signals := s.world.signals.filter (·.1 ≠ s.self) } }
      for n in mine do
        let s ← get
        match (if n = 9 then none else s.traps.lookup n) with
        | some action =>
          let status := s.status
          if !action.isEmpty then
            runScript spawn fuel false 1 action
            if ← isRunning then setStatus status
        | none => if !isHarmless n then finish (.killed n)

end

end PassDelta.Machine.Shell

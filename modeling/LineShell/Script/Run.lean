import LineShell.Script.Process

/-!
Running scripts.
-/

namespace LineShell.Script

variable {ω : Type}

/-- Runs code. The number bounds the nesting of commands and the rounds of loops. -/
def eval (host : Host ω) : Nat → Code → Process ω → Process ω
  | 0, _, p => { p with ended := true }
  | n + 1, code, p =>
    if p.ended then p
    else
      match code with
      | .nothing => p
      | .simple assignments words => p.simple host assignments words
      | .seq first second => eval host n second (eval host n first p)
      | .and first second =>
        let q := eval host n first p
        if q.status = 0 then eval host n second q else q
      | .or first second =>
        let q := eval host n first p
        if q.status = 0 then q else eval host n second q
      | .not body =>
        let q := eval host n body p
        if q.ended then q else q.withStatus (if q.status = 0 then 1 else 0)
      | .cond test yes no =>
        let q := eval host n test p
        if q.status = 0 then eval host n yes q else eval host n no (q.withStatus 0)
      | .loop again isUntil test body =>
        let q := eval host n test p
        if q.ended then q
        else if (q.status = 0) = isUntil then q.withStatus (if again then p.status else 0)
        else eval host n (.loop true isUntil test body) (eval host n body q)
      | .each name words body =>
        (words.flatMap p.fields).foldl (fun q value => eval host n body (q.set name value))
          (p.withStatus 0)
      | .apart body =>
        let q := eval host n body p
        { q with vars := p.vars, args := p.args, ended := false }
      | .pipe first second =>
        let q := eval host n first { p with output := [] }
        let r := eval host n second
          { p with world := q.world, errors := q.errors, input := q.output }
        { r with vars := p.vars, args := p.args, input := q.input, ended := false }
      | .redirected rs body =>
        p.redirected rs (eval host n body { p with output := [], errors := [] })

/-- How deep commands may be nested, rounds of loops counted as nesting. -/
def maxNesting : Nat := 100000

/-- Runs the text of a script to its end. A text that is no script fails with status 2. -/
def run (host : Host ω) (text : String) (p : Process ω) : Process ω :=
  match parse text with
  | some code => eval host maxNesting code p
  | none => (p.complain "Syntax error").withStatus 2

end LineShell.Script

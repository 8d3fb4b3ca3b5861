/-!
# Options and switches of the rich shell

Their names, and those that are on from the beginning.
-/

namespace PassDelta.Machine.Shell

def richOptions : List (String × Option Char) := [
  ("allexport", some 'a'), ("braceexpand", some 'B'), ("emacs", none), ("errexit", some 'e'), ("errtrace", some 'E'),
  ("functrace", some 'T'), ("hashall", some 'h'), ("histexpand", some 'H'), ("history", none), ("ignoreeof", none),
  ("interactive-comments", none), ("keyword", some 'k'), ("monitor", some 'm'), ("noclobber", some 'C'),
  ("noexec", some 'n'), ("noglob", some 'f'), ("nolog", none), ("notify", some 'b'), ("nounset", some 'u'),
  ("onecmd", some 't'), ("physical", some 'P'), ("pipefail", none), ("posix", none), ("privileged", some 'p'),
  ("verbose", some 'v'), ("vi", none), ("xtrace", some 'x')]

def switchNames : List String := [
  "autocd", "assoc_expand_once", "cdable_vars", "cdspell", "checkhash", "checkjobs", "checkwinsize", "cmdhist",
  "compat31", "compat32", "compat40", "compat41", "compat42", "compat43", "compat44", "complete_fullquote", "direxpand",
  "dirspell", "dotglob", "execfail", "expand_aliases", "extdebug", "extglob", "extquote", "failglob", "force_fignore",
  "globasciiranges", "globskipdots", "globstar", "gnu_errfmt", "histappend", "histreedit", "histverify",
  "hostcomplete", "huponexit", "inherit_errexit", "interactive_comments", "lastpipe", "lithist", "localvar_inherit",
  "localvar_unset", "login_shell", "mailwarn", "no_empty_cmd_completion", "nocaseglob", "nocasematch",
  "noexpand_translation", "nullglob", "patsub_replacement", "progcomp", "progcomp_alias", "promptvars",
  "restricted_shell", "shift_verbose", "sourcepath", "varredir_close", "xpg_echo"]

/-- The switches and options without letters that are on where nothing else was asked for. -/
def usualSwitches : List String := [
  "checkwinsize", "cmdhist", "complete_fullquote", "extquote", "force_fignore", "globasciiranges", "globskipdots",
  "hostcomplete", "interactive_comments", "patsub_replacement", "progcomp", "promptvars", "sourcepath",
  "interactive-comments"]

end PassDelta.Machine.Shell

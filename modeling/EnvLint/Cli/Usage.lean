import EnvLint.Cli.Option

/-! # Texts of the command

    Usage, help and version. -/

namespace EnvLint.Cli

/-- Name of the command. -/
def programName : String := "envcheck"

/-- The version. -/
def versionText : String := "envcheck 0.1.0\n"

/-- The usage. -/
def usage : String :=
  "usage: envcheck [-h] [--config CONFIG] [--env-source ENV_SOURCE]\n" ++
  "                [--server-only-pattern SERVER_ONLY_PATTERN]\n" ++
  "                [--severity \x7berror,warn,off\x7d] [--format \x7bconsole,plain,json\x7d]\n" ++
  "                [--pattern PATTERN] [--jobs JOBS] [--no-color] [--verbose]\n" ++
  "                [--version]\n" ++
  "                paths [paths ...]\n"

/-- The help. -/
def helpText : String :=
  usage ++
  "\n" ++
  "Flag server-only env variables read in Next.js modules that are statically\n" ++
  "rendered (no `export const dynamic = 'force-dynamic'`).\n" ++
  "\n" ++
  "positional arguments:\n" ++
  "  paths                 ESTree JSON files or directories\n" ++
  "\n" ++
  "options:\n" ++
  "  -h, --help            show this help message and exit\n" ++
  "  --config CONFIG       JSON config file (\x7b\"rules\": \x7b...\x7d\x7d)\n" ++
  "  --env-source ENV_SOURCE\n" ++
  "                        import path of the env accessor (default: @/env)\n" ++
  "  --server-only-pattern SERVER_ONLY_PATTERN\n" ++
  "                        regex matching server-only names (default:\n" ++
  "                        ^(?!NEXT_PUBLIC_).*)\n" ++
  "  --severity \x7berror,warn,off\x7d\n" ++
  "                        severity of require-force-dynamic-for-env\n" ++
  "  --format \x7bconsole,plain,json\x7d\n" ++
  "                        output format (default: console)\n" ++
  "  --pattern PATTERN     glob used inside directories\n" ++
  "  --jobs JOBS, -j JOBS  worker threads\n" ++
  "  --no-color            disable colored output\n" ++
  "  --verbose, -v         -v info, -vv debug\n" ++
  "  --version             show program's version number and exit\n"

/-- What is written for a refused argument list. -/
def UsageFault.complaint (fault : UsageFault) : String :=
  usage ++ programName ++ ": error: " ++ fault.message ++ "\n"

end EnvLint.Cli

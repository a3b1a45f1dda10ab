import SbomGate.Config.Verifier
/-!
# SbomGate.Sample.Claims

**Sample claims**, those of the token of a workflow that ran on a push to the
main branch.
-/

namespace SbomGate.Sample

open Json

/-- The claims of a token for an audience that is issued at the time `now`. It
is valid for five minutes. -/
def claims (audience : String) (now : Int) : Value :=
  .object <| Members.sort
    [("iss", .string Config.githubIssuer), ("aud", .string audience),
      ("sub", .string "repo:acme/widget:ref:refs/heads/main"),
      ("exp", .number (.whole (now + 300))), ("iat", .number (.whole now)),
      ("nbf", .number (.whole (now - 5))),
      ("jti", .string "9b1a2f4e-0c3d-4e5f-8a9b-1c2d3e4f5a6b"),
      ("repository", .string "acme/widget"), ("repository_owner", .string "acme"),
      ("repository_id", .string "123456789"), ("actor", .string "bot"),
      ("ref", .string "refs/heads/main"),
      ("sha", .string "3f786850e387550fdab836ed7e6dc881de23001b"),
      ("workflow", .string "sbom"), ("event_name", .string "push"),
      ("run_id", .string "4242424242")]

end SbomGate.Sample

import WebhookAuth.Text.Blank

/-!
# Endpoints of remote stores

Where the server of a remote store is, as a URL or as a connection string of the form
`host:port,option=value`, which is taken for the URL of its endpoint.
-/

namespace WebhookAuth.Endpoint

open WebhookAuth.Text

/-- The URL that a connection string stands for: itself if it is one, else the URL of the endpoint
before its options. -/
def urlOfConnectionString (value : String) : String :=
  let text := strip value.toList
  if contains [':', '/', '/'] text then String.ofList text
  else String.ofList ("redis://".toList ++ strip (cut ',' text).1)

end WebhookAuth.Endpoint

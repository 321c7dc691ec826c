/-!
# Annotation keys

The annotations of ingress-nginx that the migration understands.
-/

namespace GatewayMigration.AnnotationKey

def space : String := "nginx.ingress.kubernetes.io/"

/-! ## Backend protocol and TLS towards Services -/

def backendProtocol : String := space ++ "backend-protocol"
def proxySslSecret : String := space ++ "proxy-ssl-secret"
def proxySslVerify : String := space ++ "proxy-ssl-verify"
def proxySslName : String := space ++ "proxy-ssl-name"
def proxySslProtocols : String := space ++ "proxy-ssl-protocols"
def proxySslCiphers : String := space ++ "proxy-ssl-ciphers"

/-! ## Timeouts -/

def proxyConnectTimeout : String := space ++ "proxy-connect-timeout"
def proxyReadTimeout : String := space ++ "proxy-read-timeout"
def proxySendTimeout : String := space ++ "proxy-send-timeout"

/-! ## Proxy settings -/

def proxyBodySize : String := space ++ "proxy-body-size"
def proxyBuffering : String := space ++ "proxy-buffering"
def proxyRequestBuffering : String := space ++ "proxy-request-buffering"
def loadBalance : String := space ++ "load-balance"

/-! ## Redirects -/

def sslRedirect : String := space ++ "ssl-redirect"
def forceSslRedirect : String := space ++ "force-ssl-redirect"

/-! ## Rate limits -/

def limitRps : String := space ++ "limit-rps"
def limitRpm : String := space ++ "limit-rpm"
def limitConnections : String := space ++ "limit-connections"
def limitBurstMultiplier : String := space ++ "limit-burst-multiplier"
def limitReqZone : String := space ++ "limit-req-zone"

/-! ## Client certificates -/

def authTlsSecret : String := space ++ "auth-tls-secret"
def authTlsVerifyClient : String := space ++ "auth-tls-verify-client"
def authTlsVerifyDepth : String := space ++ "auth-tls-verify-depth"
def authTlsErrorPage : String := space ++ "auth-tls-error-page"
def authTlsPassToUpstream : String := space ++ "auth-tls-pass-certificate-to-upstream"

/-! ## External authorization -/

def authUrl : String := space ++ "auth-url"
def authMethod : String := space ++ "auth-method"
def authSignin : String := space ++ "auth-signin"
def authResponseHeaders : String := space ++ "auth-response-headers"
def authRequestRedirect : String := space ++ "auth-request-redirect"
def authCacheKey : String := space ++ "auth-cache-key"
def authCacheDuration : String := space ++ "auth-cache-duration"
def authSnippet : String := space ++ "auth-snippet"

/-! ## Free-form configuration -/

def serverSnippet : String := space ++ "server-snippet"
def configurationSnippet : String := space ++ "configuration-snippet"
def streamSnippet : String := space ++ "stream-snippet"
def useRegex : String := space ++ "use-regex"
def rewriteTarget : String := space ++ "rewrite-target"

end GatewayMigration.AnnotationKey
